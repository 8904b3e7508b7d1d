/-
  MapTheme.Proofs.Filter.Selection — which features the query of a filter selects.

  A feature is selected by some text of the query exactly if the filter is true with each leaf taken as true where
  what its fragment asks for is so (`exists_selects_iff`). To a filter a missing key reads as the empty value, but a
  fragment that names a key mostly asks for the key. So two kinds of leaves hold of features without the key that
  their fragment does not select: a substitution that gives the empty value, and a pattern that accepts it
  (`isMissed`). Every other leaf asks for no more than what makes it hold (`isSelected_of_holds`), and the query
  selects every feature that the filter holds of without the help of a missed leaf (`query_selects`).
-/

import MapTheme.Proofs.Filter.Query
import MapTheme.Proofs.Filter.Template

namespace MapTheme

open Query (Condition)

/-- A value that no entry has is that of no key. -/
theorem Properties.get?_ne_of_any {p : Properties} {value : String} (h : p.any (fun _ v => v == value) = false)
    (key : String) : p.get? key ≠ some value := by
  intro hkey
  obtain ⟨before, after, hentries, -⟩ := List.lookup_eq_some_iff.mp hkey
  rw [any, hentries] at h
  simp at h

/-! ## Selection -/

/-- Is what the fragment of the leaf asks for so? -/
def Leaf.isSelected (p : Properties) (l : Leaf) : Bool := l.condition?.all (·.holds p)

theorem Query.selects_alternativeText (ls : List Leaf) (p : Properties) :
    selects (Filter.alternativeText ls) p = ls.all (·.isSelected p) := by
  rw [selects, read?_alternativeText, Option.any_some, List.all_filterMap]
  rfl

theorem Filter.exists_selects_iff {f : Filter} {p : Properties} :
    (∃ a ∈ f.fragments, Query.selects a p = true) ↔ f.evaluate (·.isSelected p) = true := by
  rw [← List.any_eq_true, fragments_eq_map, List.any_map, evaluate_eq_any]
  simp only [Function.comp_def, Query.selects_alternativeText]

/-- A filter stays true when its leaves do. -/
theorem Filter.evaluate_mono {f : Filter} {v w : Leaf → Bool}
    (hleaf : ∀ l, leaf l ∈ f.parts → v l = true → w l = true) (h : f.evaluate v = true) : f.evaluate w = true := by
  obtain ⟨ls, hls, htrue⟩ := evaluate_iff.mp h
  exact evaluate_iff.mpr ⟨ls, hls, fun l hl => hleaf l (leaf_mem_of_alternative hls l hl) (htrue l hl)⟩

/-! ## Missed leaves -/

namespace Leaf

/-- The leaf holds because the missing key reads as the empty value, but its fragment asks for the key. -/
def isMissed (p : Properties) : Leaf → Bool
  | substituting key template => (p.get? key).isNone && substitute template p == ""
  | regex (.exact key) (.pattern value) false => (p.get? key).isNone && value.accepts ""
  | _ => false

variable {l : Leaf} {p : Properties}

theorem holds_of_isMissed (h : l.isMissed p = true) : l.holds p = true ∧ l.isSelected p = false := by
  unfold isMissed at h
  split at h
  · rw [Bool.and_eq_true, Option.isNone_iff_eq_none, beq_iff_eq] at h
    simp [holds, isSelected, condition?, Condition.holds, Properties.value, h]
  · rw [Bool.and_eq_true, Option.isNone_iff_eq_none] at h
    simp [holds, isSelected, condition?, Condition.holds, Matcher.accepts, Properties.value, h]
  · cases h

/-- What is missed of some feature is missed of the one without properties. -/
theorem isMissed_empty (h : l.isMissed p = true) : l.isMissed .empty = true := by
  unfold isMissed at h ⊢
  split at h
  · rw [Bool.and_eq_true, beq_iff_eq, substitute_eq_empty_iff] at h
    rw [Bool.and_eq_true, beq_iff_eq, substitute_eq_empty_iff]
    refine ⟨rfl, fun piece hpiece => ?_⟩
    cases piece with
    | char c => cases h.2 _ hpiece
    | hole key => rfl
  · rw [Bool.and_eq_true] at h ⊢
    exact ⟨rfl, h.2⟩
  · cases h

/-! ### Leaves that are asked for as they hold -/

/-- A literal value, where no value is empty. -/
theorem isSelected_literal (hvalues : ∀ key, p.get? key ≠ some "") (key value : String) (invert : Bool) :
    (regex (.exact key) (.exact value) invert).isSelected p = (regex (.exact key) (.exact value) invert).holds p := by
  rw [holds, Properties.value, isSelected, condition?, Option.all_some]
  cases hkey : p.get? key with
  | none =>
    by_cases hvalue : value = ""
    · cases invert <;> simp [Condition.holds, Matcher.accepts, hkey, hvalue]
    · cases invert <;> simp [Condition.holds, Matcher.accepts, hkey, hvalue, bne]
  | some v =>
    have hv : v ≠ "" := fun hv => hvalues key (hkey.trans (congrArg some hv))
    by_cases hvalue : value = ""
    · cases invert <;> simp [Condition.holds, Matcher.accepts, hkey, hvalue, hv.symm]
    · cases invert <;> simp [Condition.holds, Matcher.accepts, hkey, hvalue, Bool.beq_comm (a := value), bne]

/-- A pattern for the value of a key that is there. -/
theorem isSelected_pattern {key v : String} (hkey : p.get? key = some v) (value : Pattern) (invert : Bool) :
    (regex (.exact key) (.pattern value) invert).isSelected p =
      (regex (.exact key) (.pattern value) invert).holds p := by
  rw [holds, Properties.value, isSelected, condition?, Option.all_some]
  cases invert <;> simp [Condition.holds, Matcher.accepts, Query.accepts_source, hkey]

/-- A pattern for a key. -/
theorem isSelected_somePair (key : Pattern) (value : Matcher) :
    (regex (.pattern key) value false).isSelected p = (regex (.pattern key) value false).holds p := by
  simp only [isSelected, condition?, Option.all_some, Condition.holds, Query.accepts_source,
    Query.accepts_patternSource, holds, Bool.bne_false]

/-- A leaf that holds and is not missed asks for no more than there is. -/
theorem isSelected_of_holds (hvalues : ∀ key, p.get? key ≠ some "") (h : l.holds p = true)
    (hmissed : l.isMissed p = false) : l.isSelected p = true := by
  cases l with
  | tag key value =>
    have hliteral := isSelected_literal hvalues key value false
    rw [← holds_simplified (regex (.exact key) (.exact value) false), simplified, h] at hliteral
    exact hliteral
  | substituting key template =>
    cases hkey : p.get? key with
    | none =>
      rw [holds, Properties.value, hkey, Option.getD_none, Bool.beq_comm] at h
      rw [isMissed, hkey, h] at hmissed
      cases hmissed
    | some v => simp [isSelected, condition?, Condition.holds, hkey]
  | comparing key op bound =>
    cases hkey : p.get? key with
    | none => simp [holds, hkey] at h
    | some v => simp [isSelected, condition?, Condition.holds, hkey]
  | regex key value invert =>
    cases key with
    | exact key =>
      cases value with
      | exact value => rw [isSelected_literal hvalues, h]
      | pattern value =>
        cases hkey : p.get? key with
        | some v => rw [isSelected_pattern hkey, h]
        | none =>
          cases invert with
          | false =>
            rw [holds, Properties.value, hkey, Option.getD_none, Matcher.accepts, Bool.bne_false] at h
            rw [isMissed, hkey, h] at hmissed
            cases hmissed
          | true => simp [isSelected, condition?, Condition.holds, hkey]
    | pattern key =>
      cases invert with
      | true => rfl
      | false => rw [isSelected_somePair, h]

theorem selects_eq_false_iff (l : Leaf) (p : Properties) :
    (∀ a ∈ (Filter.leaf l).fragments, Query.selects a p = false) ↔ l.isSelected p = false := by
  have hiff := not_congr (Filter.exists_selects_iff (f := .leaf l) (p := p))
  simpa [Filter.evaluate] using hiff

end Leaf

/-! ## Queries -/

namespace Filter

/-- Where no value is empty, the query of a filter selects every feature that the filter holds of without its missed
leaves; so, if no leaf is missed, every feature that it holds of. A leaf is missed exactly if it holds and its own
query does not select the feature, and then it is missed of the feature without properties too. -/
theorem query_selects {f : Filter} {p : Properties} (hvalues : ∀ key, p.get? key ≠ some "") :
    (f.evaluate (fun l => l.holds p && !l.isMissed p) = true → ∃ a ∈ f.fragments, Query.selects a p = true) ∧
      (f.holds p = true → (∀ l, leaf l ∈ f.parts → l.isMissed p = false) →
        ∃ a ∈ f.fragments, Query.selects a p = true) ∧
      ∀ l : Leaf,
        (l.isMissed p = true ↔ l.holds p = true ∧ ∀ a ∈ (leaf l).fragments, Query.selects a p = false) ∧
          (l.isMissed p = true → l.isMissed .empty = true) := by
  have hselects : f.evaluate (fun l => l.holds p && !l.isMissed p) = true →
      ∃ a ∈ f.fragments, Query.selects a p = true := by
    intro h
    refine exists_selects_iff.mpr (evaluate_mono (fun l _ hl => ?_) h)
    rw [Bool.and_eq_true, Bool.not_eq_true'] at hl
    exact Leaf.isSelected_of_holds hvalues hl.1 hl.2
  refine ⟨hselects, fun h hmissed => hselects ?_, fun l => ⟨?_, Leaf.isMissed_empty⟩⟩
  · rw [← evaluate_holds] at h
    refine evaluate_mono (fun l hl htrue => ?_) h
    rw [htrue, hmissed l hl, Bool.not_false, Bool.and_true]
  · rw [Leaf.selects_eq_false_iff]
    refine ⟨Leaf.holds_of_isMissed, fun ⟨h, hnot⟩ => ?_⟩
    cases hmissed : l.isMissed p with
    | true => rfl
    | false =>
      rw [Leaf.isSelected_of_holds hvalues h hmissed] at hnot
      cases hnot

/-- A feature with its name for a reference, or a bench that is not private. -/
def publicBench : Filter :=
  .or [.leaf (.substituting "ref" "\x7bname\x7d"),
    .and [.tag "amenity" "bench", .leaf (.regex (.exact "access") (.exact "private") true)]]

def bench : Properties := .ofList [("amenity", "bench"), ("height", "2")]

/-- A bench without a reference is missed by the first text, but not by the second. -/
theorem query_selects_bench :
    (∀ key, bench.get? key ≠ some "") ∧
      publicBench.fragments = ["[\"ref\"]", "[\"amenity\"=\"bench\"][\"access\"!=\"private\"]"] ∧
      (Leaf.substituting "ref" "\x7bname\x7d").isMissed bench = true ∧
      Query.selects "[\"ref\"]" bench = false ∧ ∃ a ∈ publicBench.fragments, Query.selects a bench = true := by
  have hvalues : ∀ key, bench.get? key ≠ some "" := Properties.get?_ne_of_any (by decide)
  have hmissed : (Leaf.substituting "ref" "\x7bname\x7d").isMissed bench = true := by decide
  obtain ⟨hselects, -, hleaf⟩ := query_selects (f := publicBench) hvalues
  exact ⟨hvalues, by decide, hmissed, ((hleaf _).1.mp hmissed).2 _ (by decide), hselects (by decide)⟩

/-- The pattern of an optional word. -/
def optionalNo : Pattern where
  source := "(no)?"
  compiled := .seq (.assertion .textStart) (.seq (.group false (.rep (.group true
    (.seq (.chars [(110, 110)]) (.chars [(111, 111)]))) 0 (some 1))) (.assertion .textEnd))
  compiles := by rfl

def twoWay : Filter :=
  .or [.leaf (.regex (.exact "oneway") (.pattern optionalNo) false), .leaf (.substituting "ref" "\x7bname\x7d")]

/-- Both leaves hold of a bench, which has none of the keys; the query asks for one of the two in each text. -/
theorem query_misses_bench :
    (∀ key, bench.get? key ≠ some "") ∧ twoWay.holds bench = true ∧
      ∀ a ∈ twoWay.fragments, Query.selects a bench = false := by
  refine ⟨Properties.get?_ne_of_any (by decide), by decide +kernel, ?_⟩
  have hnone : ¬ ∃ a ∈ twoWay.fragments, Query.selects a bench = true := by
    rw [exists_selects_iff]
    decide +kernel
  simpa using hnone

end Filter

end MapTheme
