/-
  MapTheme.Proofs.Library.Publicity — lists of ids in order, and the layers that themes make public.

  A list of ids in order is known by its members (`sortedIds_congr`), so one theme adds to the public layers what it
  shows, whatever the others show.
-/

import MapTheme.Library.Publicity
import MapTheme.Proofs.Rendering.Distinct
import Mathlib.Data.String.Basic

namespace MapTheme

variable {ids others : List String} {id : String}

/-! ## Ids in order -/

theorem eraseDups_sublist {α : Type} [DecidableEq α] (as : List α) : as.eraseDups.Sublist as := by
  cases as with
  | nil => simp
  | cons a as =>
    rw [List.eraseDups_cons]
    exact ((eraseDups_sublist _).trans List.filter_sublist).cons_cons a
termination_by as.length
decreasing_by exact Nat.lt_succ_of_le (List.length_filter_le _ _)

theorem mem_sortedIds : id ∈ sortedIds ids ↔ id ∈ ids := by
  rw [sortedIds, List.mem_eraseDups, List.mem_mergeSort]

theorem nodup_sortedIds (ids : List String) : (sortedIds ids).Nodup := Rendering.nodup_eraseDups _

theorem pairwise_sortedIds (ids : List String) : (sortedIds ids).Pairwise (· ≤ ·) := by
  have hsorted : (ids.mergeSort (· ≤ ·)).Pairwise fun a b => decide (a ≤ b) = true :=
    List.pairwise_mergeSort (fun a b c => by simpa using le_trans) (fun a b => by simpa using le_total a b) ids
  exact (hsorted.sublist (eraseDups_sublist _)).imp fun h => of_decide_eq_true h

/-- The members are all there is to it. -/
theorem sortedIds_congr (h : ∀ id, id ∈ ids ↔ id ∈ others) : sortedIds ids = sortedIds others := by
  have hperm : (sortedIds ids).Perm (sortedIds others) :=
    (List.perm_ext_iff_of_nodup (nodup_sortedIds ids) (nodup_sortedIds others)).mpr fun id => by
      rw [mem_sortedIds, mem_sortedIds, h]
  exact hperm.eq_of_pairwise (fun _ _ _ _ => le_antisymm) (pairwise_sortedIds ids) (pairwise_sortedIds others)

/-- None is lost exactly if none is there twice. -/
theorem length_sortedIds_eq_iff : (sortedIds ids).length = ids.length ↔ ids.Nodup := by
  constructor
  · intro hlength
    have hsort := List.mergeSort_perm ids (· ≤ ·)
    rw [← hsort.nodup_iff, ← (eraseDups_sublist (ids.mergeSort (· ≤ ·))).eq_of_length (hlength.trans hsort.length_eq.symm)]
    exact nodup_sortedIds ids
  · intro hnodup
    exact ((List.perm_ext_iff_of_nodup (nodup_sortedIds ids) hnodup).mpr fun _ => mem_sortedIds).length_eq

/-! ## Public layers -/

/-- Does a theme make the layer public? -/
def Shows (theme : Document) (id : String) : Prop :=
  isHidden theme = false ∧ ∃ entry ∈ (theme.listAt? "layers").getD [], id ∈ sharedIds entry

theorem mem_publicLayers {themes : List Document} : id ∈ publicLayers themes ↔ ∃ theme ∈ themes, Shows theme id := by
  simp only [publicLayers, mem_sortedIds, List.mem_flatMap, List.mem_filter, Bool.not_eq_true', Shows]
  constructor
  · rintro ⟨entry, ⟨theme, ⟨htheme, hlisted⟩, hentry⟩, hid⟩
    exact ⟨theme, htheme, hlisted, entry, hentry, hid⟩
  · rintro ⟨theme, htheme, hlisted, entry, hentry, hid⟩
    exact ⟨entry, ⟨theme, ⟨htheme, hlisted⟩, hentry⟩, hid⟩

theorem publicLayers_congr {themes themes' : List Document}
    (h : ∀ id, id ∈ publicLayers themes ↔ id ∈ publicLayers themes') : publicLayers themes = publicLayers themes' :=
  sortedIds_congr fun id => mem_sortedIds.symm.trans ((h id).trans mem_sortedIds)

/-- One theme more makes no difference to whether other themes make the same layers public. -/
theorem publicLayers_congr_of_others {theme : Document} {themes rest themes' rest' : List Document}
    (hthemes : ∀ d, d ∈ themes ↔ d = theme ∨ d ∈ rest) (hthemes' : ∀ d, d ∈ themes' ↔ d = theme ∨ d ∈ rest')
    (h : publicLayers rest = publicLayers rest') : publicLayers themes = publicLayers themes' := by
  refine publicLayers_congr fun id => ?_
  have hrest : (∃ d ∈ rest, Shows d id) ↔ ∃ d ∈ rest', Shows d id := by rw [← mem_publicLayers, ← mem_publicLayers, h]
  simp only [mem_publicLayers, hthemes, hthemes', or_and_right, exists_or, hrest]

end MapTheme
