/-
  MapTheme.Proofs.Config.Source — which filters a source takes, and which it refuses.

  A source refuses a filter that simplifies to a verdict, or that is judged negative leaf by leaf. A filter that is
  judged negative does hold of a feature without properties. The reverse fails for one kind of leaf, a copy: a
  template of holes only gives the empty value there, which is also the value of the missing key, and yet a
  substitution is never judged negative. But for copies a filter is judged exactly, and a source that takes one
  without copies does not take features without properties (`isNegative_exact`); no filter is refused that could be
  of use (`refused_only_if_useless`).
-/

import MapTheme.Config.Layer
import MapTheme.Proofs.Filter.Optimise
import MapTheme.Proofs.Filter.Template

namespace MapTheme

/-! ## Copies -/

/-- Is the template nothing but holes, or empty? -/
def holesOnly (template : String) : Bool := (templatePieces none template.toList).all (·.key?.isSome)

/-- A value that is put together from other values alone. -/
def Leaf.isCopy : Leaf → Bool
  | substituting _ template => holesOnly template
  | _ => false

theorem TemplatePiece.fill_empty (piece : TemplatePiece) : piece.fill .empty = [] ↔ piece.key?.isSome = true := by
  cases piece with
  | char c => simp [fill, key?]
  | hole key => exact ⟨fun _ => rfl, fun _ => rfl⟩

/-- Where nothing fills the holes, a template gives the text around them. -/
theorem substitute_empty_eq_empty (template : String) : (substitute template .empty == "") = holesOnly template := by
  rw [Bool.eq_iff_iff, beq_iff_eq, substitute_eq_empty_iff, holesOnly, List.all_eq_true]
  exact forall₂_congr fun piece _ => piece.fill_empty

theorem Leaf.holds_empty_substituting (key template : String) :
    (substituting key template).holds .empty = holesOnly template :=
  Bool.beq_comm.trans (substitute_empty_eq_empty template)

/-! ## The judgement -/

namespace Filter

/-- A leaf is judged as it is, unless it is a copy. -/
theorem Leaf.isNegative_eq (l : MapTheme.Leaf) : Leaf.isNegative l = (l.holds .empty && !l.isCopy) := by
  cases l with
  | tag key value =>
    have hvalue : value.isEmpty = ("" == value) := by
      rw [Bool.eq_iff_iff, String.isEmpty_iff, beq_iff_eq, eq_comm]
    exact hvalue.trans (Bool.and_true _).symm
  | substituting key template =>
    rw [Leaf.holds_empty_substituting, Leaf.isCopy, Bool.and_not_self]
    rfl
  | regex => exact (Bool.and_true _).symm
  | comparing => rfl

@[simp] theorem isNegative_leaf (l : MapTheme.Leaf) : (leaf l).isNegative = Leaf.isNegative l := by rw [isNegative]

@[simp] theorem isNegative_and (fs : List Filter) : (and fs).isNegative = fs.all isNegative := by
  rw [isNegative]
  induction fs with
  | nil => rfl
  | cons f fs ih => rw [allNegative, ih, List.all_cons]

@[simp] theorem isNegative_or (fs : List Filter) : (or fs).isNegative = fs.any isNegative := by
  rw [isNegative]
  induction fs with
  | nil => rfl
  | cons f fs ih => rw [anyNegative, ih, List.any_cons]

/-- A filter that is judged negative holds of a feature without properties. -/
theorem matchesEmpty_of_isNegative {f : Filter} (h : f.isNegative = true) : f.matchesEmpty = true := by
  unfold matchesEmpty
  induction f using Filter.induction with
  | leaf l =>
    rw [isNegative_leaf, Leaf.isNegative_eq, Bool.and_eq_true] at h
    rw [holds_leaf]
    exact h.1
  | and fs ih =>
    rw [isNegative_and, List.all_eq_true] at h
    rw [holds_and, List.all_eq_true]
    exact fun f hf => ih f hf (h f hf)
  | or fs ih =>
    rw [isNegative_or, List.any_eq_true] at h
    rw [holds_or, List.any_eq_true]
    obtain ⟨f, hf, hnegative⟩ := h
    exact ⟨f, hf, ih f hf hnegative⟩

mutual

/-- The filter with every copy taken as never true. -/
def withoutCopies : Filter → Filter
  | leaf l => if l.isCopy then or [] else leaf l
  | and fs => and (eachWithoutCopies fs)
  | or fs => or (eachWithoutCopies fs)

def eachWithoutCopies : List Filter → List Filter
  | [] => []
  | f :: fs => withoutCopies f :: eachWithoutCopies fs

end

theorem eachWithoutCopies_eq_map (fs : List Filter) : eachWithoutCopies fs = fs.map withoutCopies := by
  induction fs with
  | nil => rfl
  | cons f fs ih => rw [eachWithoutCopies, ih, List.map_cons]

/-- The judgement is exact but for the copies. -/
theorem isNegative_eq_withoutCopies (f : Filter) : f.isNegative = f.withoutCopies.matchesEmpty := by
  unfold matchesEmpty
  induction f using Filter.induction with
  | leaf l =>
    rw [isNegative_leaf, Leaf.isNegative_eq, withoutCopies]
    cases l.isCopy <;> simp
  | and fs ih =>
    rw [isNegative_and, withoutCopies, holds_and, eachWithoutCopies_eq_map, List.all_map, Bool.eq_iff_iff,
      List.all_eq_true, List.all_eq_true]
    exact forall₂_congr fun f hf => by rw [ih f hf, Function.comp_apply]
  | or fs ih =>
    rw [isNegative_or, withoutCopies, holds_or, eachWithoutCopies_eq_map, List.any_map, Bool.eq_iff_iff,
      List.any_eq_true, List.any_eq_true]
    exact exists_congr fun f => and_congr_right fun hf => by rw [ih f hf, Function.comp_apply]

theorem withoutCopies_eq_self {f : Filter} (h : ∀ l, leaf l ∈ f.parts → l.isCopy = false) : f.withoutCopies = f := by
  induction f using Filter.induction with
  | leaf l => rw [withoutCopies, h l (by simp [parts])]; rfl
  | and fs ih =>
    have hsame : fs.map withoutCopies = fs.map id :=
      List.map_congr_left fun f hf => ih f hf fun l hl => h l (leaf_mem_parts hf hl).1
    rw [withoutCopies, eachWithoutCopies_eq_map, hsame, List.map_id]
  | or fs ih =>
    have hsame : fs.map withoutCopies = fs.map id :=
      List.map_congr_left fun f hf => ih f hf fun l hl => h l (leaf_mem_parts hf hl).2
    rw [withoutCopies, eachWithoutCopies_eq_map, hsame, List.map_id]

end Filter

/-! ## Sources -/

namespace Config.Source

variable {place : String} {f : Filter} {file : Option String}

/-- A source takes a filter as it is, if it is not judged negative. -/
theorem eq_of_read {s : Source} (h : read place f file = .ok s) : s = ⟨f, file⟩ ∧ f.isNegative = false := by
  unfold read at h
  split at h
  · cases h
  · cases h
  · split at h
    · cases h
    · rename_i hnegative
      cases h
      exact ⟨rfl, Bool.eq_false_iff.mpr hnegative⟩

/-- What a source says of a filter that it refuses is true. -/
theorem refusal_is_true {fault : Fault} (h : read place f file = .error fault) :
    (fault = .invalid place (.matchesAll f.toText) ∧ ∀ p, f.holds p = true) ∨
      (fault = .invalid place (.matchesNothing f.toText) ∧ ∀ p, f.holds p = false) ∨
      (fault = .invalid place (.negativeSource f.toText) ∧ f.matchesEmpty = true) := by
  unfold read at h
  split at h
  · rename_i hverdict
    cases h
    exact .inl ⟨rfl, fun p => by rw [← Filter.holds_optimise, hverdict, Optimised.holds]⟩
  · rename_i hverdict
    cases h
    exact .inr (.inl ⟨rfl, fun p => by rw [← Filter.holds_optimise, hverdict, Optimised.holds]⟩)
  · split at h
    · rename_i hnegative
      cases h
      exact .inr (.inr ⟨rfl, Filter.matchesEmpty_of_isNegative hnegative⟩)
    · cases h

/-- A source takes a filter that holds of some feature, but not of one without properties. -/
theorem read_of_useful (place : String) (file : Option String) (hempty : f.matchesEmpty = false) {p : Properties}
    (hp : f.holds p = true) : read place f file = .ok ⟨f, file⟩ := by
  cases hread : read place f file with
  | ok s => rw [(eq_of_read hread).1]
  | error fault =>
    rcases refusal_is_true hread with ⟨-, hall⟩ | ⟨-, hnone⟩ | ⟨-, hnegative⟩
    · rw [Filter.matchesEmpty, hall] at hempty
      cases hempty
    · rw [hnone] at hp
      cases hp
    · rw [hnegative] at hempty
      cases hempty

/-- A source refuses a filter only if it holds of features without properties, or of none at all. -/
theorem refused_only_if_useless {fault : Fault} (h : read place f file = .error fault) :
    f.matchesEmpty = true ∨ ∀ p, f.holds p = false := by
  rcases refusal_is_true h with ⟨-, hall⟩ | ⟨-, hnone⟩ | ⟨-, hempty⟩
  · exact .inl (hall .empty)
  · exact .inr hnone
  · exact .inl hempty

/-- A bench that is a parking, or has the number one and another one. -/
def impossibleBench : Filter :=
  .or [.and [.tag "amenity" "bench", .tag "amenity" "parking"],
    .and [.tag "ref" "1", .leaf (.regex (.exact "ref") (.exact "1") true)]]

theorem refused_only_if_useless_bench :
    ∃ fault, read "source" impossibleBench none = .error fault ∧ impossibleBench.matchesEmpty = false ∧
      (impossibleBench.matchesEmpty = true ∨ ∀ p, impossibleBench.holds p = false) := by
  have hrefused : (read "source" impossibleBench none).isOk = false := by decide +kernel
  cases hread : read "source" impossibleBench none with
  | ok s =>
    rw [hread] at hrefused
    cases hrefused
  | error fault => exact ⟨fault, rfl, by decide, refused_only_if_useless hread⟩

end Config.Source

/-! ## Filters that are judged right -/

/-- A filter is judged negative exactly if it holds of a feature without properties even when its copies are taken
as never true, so whatever is judged negative does hold of such a feature. Without copies the judgement is exact,
and a source that takes the filter takes no feature without properties. -/
theorem isNegative_exact (f : Filter) :
    (f.isNegative = true ↔ f.withoutCopies.matchesEmpty = true) ∧
      (f.isNegative = true → f.matchesEmpty = true) ∧
      ((∀ l, .leaf l ∈ f.parts → l.isCopy = false) →
        (f.isNegative = true ↔ f.matchesEmpty = true) ∧
          ∀ place file s, Config.Source.read place f file = .ok s → s.filter = f ∧ f.matchesEmpty = false) := by
  have hexact := Filter.isNegative_eq_withoutCopies f
  refine ⟨by rw [hexact], Filter.matchesEmpty_of_isNegative, fun hcopies => ?_⟩
  rw [Filter.withoutCopies_eq_self hcopies] at hexact
  refine ⟨by rw [hexact], fun place file s hread => ?_⟩
  obtain ⟨rfl, hnegative⟩ := Config.Source.eq_of_read hread
  exact ⟨rfl, hexact ▸ hnegative⟩

/-- A bench with the number that its own id gives. -/
def numberedBench : Filter := .and [.tag "amenity" "bench", .leaf (.substituting "ref" "node/\x7bid\x7d")]

theorem isNegative_exact_bench :
    (∀ l, .leaf l ∈ numberedBench.parts → l.isCopy = false) ∧
      (numberedBench.isNegative = true ↔ numberedBench.matchesEmpty = true) ∧
      Config.Source.read "source" numberedBench none = .ok ⟨numberedBench, none⟩ ∧
      numberedBench.matchesEmpty = false := by
  have hcopies : ∀ l, .leaf l ∈ numberedBench.parts → l.isCopy = false := by
    intro l hl
    simp only [numberedBench, Filter.parts, Filter.partsOfEach, Filter.tag, List.cons_append, List.nil_append,
      List.mem_cons, Filter.leaf.injEq, reduceCtorEq, List.not_mem_nil, false_or, or_false] at hl
    rcases hl with rfl | rfl <;> decide
  have hbench : numberedBench.holds (.ofList [("amenity", "bench"), ("id", "1"), ("ref", "node/1")]) = true := by decide
  have hread := Config.Source.read_of_useful "source" none (by decide) hbench
  obtain ⟨hjudged, hsource⟩ := (isNegative_exact numberedBench).2.2 hcopies
  exact ⟨hcopies, hjudged, hread, (hsource _ _ _ hread).2⟩

/-- A reference that is the name. -/
def copiedName : Filter := .leaf (.substituting "ref" "\x7bname\x7d")

/-- Without a name and a reference the two are the same, but the filter is not judged negative: a source takes it. -/
theorem isNegative_misses_copy :
    copiedName.matchesEmpty = true ∧ copiedName.isNegative = false ∧
      Config.Source.read "source" copiedName none = .ok ⟨copiedName, none⟩ := ⟨by decide, by decide, rfl⟩

end MapTheme
