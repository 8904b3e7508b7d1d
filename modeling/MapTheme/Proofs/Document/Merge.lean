/-
  MapTheme.Proofs.Document.Merge — an overlay with distinct keys leaves keys distinct.
-/

import MapTheme.Document.Merge
import MapTheme.Proofs.Document.Distinct

namespace MapTheme

theorem ok_of_bind {ε α β : Type} {x : Except ε α} {f : α → Except ε β} {b : β} (h : x >>= f = .ok b) :
    ∃ a, x = .ok a ∧ f a = .ok b := by
  cases x with
  | error => cases h
  | ok a => exact ⟨a, rfl, h⟩

theorem existingItems_distinct {fields : Fields} {field : String} {items : List Document} (hf : fields.Distinct)
    (h : existingItems fields field = .ok items) : ∀ d ∈ items, d.Distinct := by
  unfold existingItems at h
  split at h
  · cases h; simp
  · cases h; simp
  · rename_i found hget
    cases h
    exact Document.distinct_list.mp (hf.of_get? hget)
  · cases h

theorem additions_distinct {key : String} {value : Document} {items : List Document} (hv : value.Distinct)
    (h : additions key value = .ok items) : ∀ d ∈ items, d.Distinct := by
  unfold additions at h
  split at h
  · cases h; exact Document.distinct_list.mp hv
  · cases h

namespace Document

/-- Adding items to a list of an object with distinct keys. -/
theorem distinct_insert_items {target : Fields} {field : String} {as bs : List Document} (ht : target.Distinct)
    (ha : ∀ d ∈ as, d.Distinct) (hb : ∀ d ∈ bs, d.Distinct) :
    (Fields.insert target field (list (as ++ bs))).Distinct :=
  ht.insert (distinct_list.mpr fun d hd => (List.mem_append.mp hd).elim (ha d) (hb d))

mutual

theorem distinct_merge : ∀ {source target result : Document}, source.Distinct → target.Distinct →
    merge source target = .ok result → result.Distinct
  | object source, object target, result, hs, ht, h => by
    simp only [merge] at h
    cases hm : mergeFields source target with
    | error fault => rw [hm] at h; cases h
    | ok fields =>
      rw [hm] at h
      cases h
      exact distinct_object.mpr (distinct_mergeFields (distinct_object.mp hs).2 (distinct_object.mp ht) hm)
  | object _, null, _, hs, _, h | object _, bool _, _, hs, _, h | object _, number _, _, hs, _, h
  | object _, text _, _, hs, _, h | object _, list _, _, hs, _, h
  | null, _, _, hs, _, h | bool _, _, _, hs, _, h | number _, _, _, hs, _, h | text _, _, _, hs, _, h
  | list _, _, _, hs, _, h => by
    simp only [merge, Except.ok.injEq] at h
    exact h ▸ hs

theorem distinct_mergeFields : ∀ {source : List (String × Document)} {target result : Fields},
    (∀ f ∈ source, f.2.Distinct) → target.Distinct → mergeFields source target = .ok result → result.Distinct
  | [], target, result, _, ht, h => by
    simp only [mergeFields, Except.ok.injEq] at h
    exact h ▸ ht
  | (key, value) :: rest, target, result, hs, ht, h => by
    have hv := hs (key, value) List.mem_cons_self
    have hrest : ∀ f ∈ rest, f.2.Distinct := fun f hf => hs f (List.mem_cons_of_mem _ hf)
    simp only [mergeFields] at h
    split at h
    · obtain ⟨added, ha, h⟩ := ok_of_bind h
      obtain ⟨items, hi, h⟩ := ok_of_bind h
      exact distinct_mergeFields hrest
        (distinct_insert_items ht (additions_distinct hv ha) (existingItems_distinct ht hi)) h
    · obtain ⟨added, ha, h⟩ := ok_of_bind h
      obtain ⟨items, hi, h⟩ := ok_of_bind h
      exact distinct_mergeFields hrest
        (distinct_insert_items ht (existingItems_distinct ht hi) (additions_distinct hv ha)) h
    · split at h
      · rename_i current hget
        obtain ⟨merged, hm, h⟩ := ok_of_bind h
        exact distinct_mergeFields hrest (ht.insert (distinct_merge hv (ht.of_get? hget) hm)) h
      · exact distinct_mergeFields hrest (ht.insert hv) h

end

end Document

end MapTheme
