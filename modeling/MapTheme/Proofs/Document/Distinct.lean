/-
  MapTheme.Proofs.Document.Distinct — documents in which no object has a key twice.

  Every document that is read from a text is one. Inserting, erasing and collecting fields keeps the
  keys distinct, and what is found in a field of such a document is such a document again.
-/

import MapTheme.Proofs.Document.Fields
import Mathlib.Data.List.Nodup

namespace MapTheme

namespace Document

mutual

/-- No object inside the document has a key twice. -/
def Distinct : Document → Prop
  | list items => DistinctItems items
  | object fields => (Fields.keys fields).Nodup ∧ DistinctFields fields
  | _ => True

def DistinctItems : List Document → Prop
  | [] => True
  | d :: rest => d.Distinct ∧ DistinctItems rest

def DistinctFields : List (String × Document) → Prop
  | [] => True
  | (_, d) :: rest => d.Distinct ∧ DistinctFields rest

end

theorem distinctItems_iff {items : List Document} : DistinctItems items ↔ ∀ d ∈ items, d.Distinct := by
  induction items with
  | nil => simp [DistinctItems]
  | cons d rest ih => simp [DistinctItems, ih]

theorem distinctFields_iff {fields : List (String × Document)} :
    DistinctFields fields ↔ ∀ f ∈ fields, f.2.Distinct := by
  induction fields with
  | nil => simp [DistinctFields]
  | cons f rest ih => simp [DistinctFields, ih]

end Document

/-- Distinct keys, in the object and in all values. -/
def Fields.Distinct (fields : Fields) : Prop := (keys fields).Nodup ∧ ∀ f ∈ fields, f.2.Distinct

namespace Document

@[simp] theorem distinct_null : null.Distinct := by simp [Distinct]

@[simp] theorem distinct_bool (b : Bool) : (bool b).Distinct := by simp [Distinct]

@[simp] theorem distinct_number (n : Number) : (number n).Distinct := by simp [Distinct]

@[simp] theorem distinct_text (s : String) : (text s).Distinct := by simp [Distinct]

@[simp] theorem distinct_list {items : List Document} : (list items).Distinct ↔ ∀ d ∈ items, d.Distinct := by
  rw [Distinct, distinctItems_iff]

@[simp] theorem distinct_object {fields : Fields} : (object fields).Distinct ↔ fields.Distinct := by
  rw [Distinct, distinctFields_iff, Fields.Distinct]

@[simp] theorem distinct_texts (ss : List String) : (texts ss).Distinct := by
  simp [texts]

end Document

namespace Fields

variable {fields : Fields} {key : String} {value : Document}

theorem nodup_keys_insert (hn : (keys fields).Nodup) : (keys (insert fields key value)).Nodup := by
  rw [keys_insert]
  split
  · exact hn
  · rename_i hk
    exact List.nodup_append.mpr ⟨hn, List.nodup_singleton _, fun a ha b hb => by
      rw [List.mem_singleton.mp hb]; exact fun e => hk (e ▸ ha)⟩

namespace Distinct

theorem nil : Distinct [] := by simp [Distinct, keys]

theorem of_get? (hf : fields.Distinct) (h : get? fields key = some value) : value.Distinct :=
  hf.2 _ (mem_of_get? h)

theorem insert (hf : fields.Distinct) (hv : value.Distinct) : (Fields.insert fields key value).Distinct := by
  refine ⟨nodup_keys_insert hf.1, fun f h => ?_⟩
  rcases mem_insert h with h | rfl
  · exact hf.2 f h
  · exact hv

/-- The last field moves into the hole, so no key comes up twice. -/
theorem erase (hf : fields.Distinct) (key : String) : (Fields.erase fields key).Distinct := by
  unfold Fields.erase
  split
  · split
    · exact hf
    · rename_i last hl
      obtain ⟨others, rfl⟩ := List.getLast?_eq_some_iff.mp hl
      rw [List.dropLast_concat]
      have hn := hf.1
      simp only [keys, List.map_append, List.map_cons, List.map_nil, List.nodup_append] at hn
      dsimp only
      split
      · exact ⟨hn.1, fun f h => hf.2 f (List.mem_append_left _ h)⟩
      · refine ⟨?_, fun f h => ?_⟩
        · simp only [keys, List.map_map]
          refine List.Nodup.map_on (fun f hfm g hgm he => ?_) (List.Nodup.of_map _ hn.1)
          have hne : ∀ f ∈ others, f.1 ≠ last.1 := fun f hm =>
            hn.2.2 f.1 (List.mem_map_of_mem hm) last.1 (by simp)
          simp only [Function.comp_apply, beq_iff_eq] at he
          refine List.inj_on_of_nodup_map hn.1 hfm hgm ?_
          by_cases hfk : f.1 = key <;> by_cases hgk : g.1 = key <;> simp only [hfk, hgk, if_true, if_false] at he
          · rw [hfk, hgk]
          · exact absurd he.symm (hne g hgm)
          · exact absurd he (hne f hfm)
          · exact he
        · obtain ⟨g, hg, rfl⟩ := List.mem_map.mp h
          split
          · exact hf.2 last (by simp)
          · exact hf.2 g (List.mem_append_left _ hg)
  · exact hf

theorem ofList {pairs : List (String × Document)} (h : ∀ f ∈ pairs, f.2.Distinct) : (Fields.ofList pairs).Distinct := by
  refine List.foldlRecOn pairs _ nil ?_
  intro fields hf (key, value) hm
  exact hf.insert (h _ hm)

end Distinct

end Fields

namespace Document.Distinct

variable {d : Document}

theorem get? (hd : d.Distinct) {key : String} {value : Document} (h : d.get? key = some value) : value.Distinct := by
  cases d <;> simp only [Document.get?, object?, Option.bind_none, Option.bind_some, reduceCtorEq] at h
  case object fields => exact (distinct_object.mp hd).of_get? h

theorem listAt? (hd : d.Distinct) {key : String} {items : List Document} (h : d.listAt? key = some items) :
    ∀ item ∈ items, item.Distinct := by
  obtain ⟨value, hv, hl⟩ := Option.bind_eq_some_iff.mp h
  have hdist := hd.get? hv
  cases value <;> simp only [list?, Option.some.injEq, reduceCtorEq] at hl
  case list => exact hl ▸ distinct_list.mp hdist

end Document.Distinct

end MapTheme
