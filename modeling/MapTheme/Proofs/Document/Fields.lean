/-
  MapTheme.Proofs.Document.Fields — what is found in the fields of an object, also after an insertion.
-/

import MapTheme.Document.Basic

namespace MapTheme.Fields

variable {fields : Fields} {key : String} {value : Document}

theorem get?_cons (k : String) (v : Document) (rest : Fields) (key : String) :
    get? ((k, v) :: rest) key = if k = key then some v else get? rest key := by
  by_cases hk : k = key
  · simp [get?, hk]
  · have hne : (key == k) = false := beq_false_of_ne (Ne.symm hk)
    simp [get?, hk, List.lookup_cons, hne]

theorem mem_of_get? (h : get? fields key = some value) : (key, value) ∈ fields := by
  obtain ⟨before, after, he, _⟩ := List.lookup_eq_some_iff.mp h
  simp [he]

/-- An inserted key keeps its place or goes last. -/
theorem keys_insert (fields : Fields) (key : String) (value : Document) :
    keys (insert fields key value) = if key ∈ keys fields then keys fields else keys fields ++ [key] := by
  induction fields with
  | nil => simp [insert, keys]
  | cons f rest ih =>
    obtain ⟨k, v⟩ := f
    simp only [keys, List.map_cons, List.mem_cons] at ih ⊢
    by_cases hk : k = key
    · simp [insert, hk]
    · simp only [insert, beq_iff_eq, hk, if_false, List.map_cons, ih, Ne.symm hk, false_or]
      by_cases hm : key ∈ rest.map (·.1) <;> simp [hm]

theorem mem_insert {f : String × Document} (h : f ∈ insert fields key value) : f ∈ fields ∨ f = (key, value) := by
  induction fields with
  | nil => exact .inr (List.mem_singleton.mp h)
  | cons g rest ih =>
    obtain ⟨k, v⟩ := g
    simp only [insert, beq_iff_eq] at h
    split at h
    · rename_i hk
      rcases List.mem_cons.mp h with rfl | h
      · exact .inr (congrArg (·, value) hk)
      · exact .inl (List.mem_cons_of_mem _ h)
    · rcases List.mem_cons.mp h with rfl | h
      · exact .inl List.mem_cons_self
      · exact (ih h).imp_left (List.mem_cons_of_mem _)

theorem has_eq_isSome_get? (fs : Fields) (key : String) : has fs key = (get? fs key).isSome := by
  induction fs with
  | nil => rfl
  | cons f rest ih =>
    obtain ⟨k, d⟩ := f
    simp only [has, get?, List.any_cons, List.lookup_cons] at ih ⊢
    rw [ih, Bool.beq_comm]
    split <;> simp_all

theorem has_iff_mem_keys {fs : Fields} {key : String} : has fs key = true ↔ key ∈ keys fs := by simp [has, keys]

theorem get?_eq_none_iff {fs : Fields} {key : String} : get? fs key = none ↔ key ∉ keys fs := by
  rw [← has_iff_mem_keys, has_eq_isSome_get?, Option.not_isSome_iff_eq_none]

theorem isSome_get?_iff {fs : Fields} {key : String} : (get? fs key).isSome = true ↔ key ∈ keys fs := by
  rw [← has_eq_isSome_get?, has_iff_mem_keys]

theorem get?_eq_some_iff_mem {fs : Fields} (hn : (keys fs).Nodup) {key : String} {d : Document} :
    get? fs key = some d ↔ (key, d) ∈ fs := by
  refine ⟨mem_of_get?, fun h => ?_⟩
  obtain ⟨before, after, rfl⟩ := List.append_of_mem h
  simp only [keys, List.map_append, List.nodup_append] at hn
  refine List.lookup_eq_some_iff.mpr ⟨before, after, rfl, fun f hf => bne_iff_ne.mpr ?_⟩
  exact (hn.2.2 f.1 (List.mem_map_of_mem hf) key (by simp)).symm

@[simp] theorem get?_insert_self (fields : Fields) (key : String) (value : Document) :
    get? (insert fields key value) key = some value := by
  induction fields with
  | nil => simp [insert, get?_cons]
  | cons f rest ih =>
    obtain ⟨k, v⟩ := f
    by_cases hk : k = key <;> simp [insert, get?_cons, hk, ih]

theorem get?_insert_of_ne {other : String} (h : key ≠ other) (fields : Fields) (value : Document) :
    get? (insert fields key value) other = get? fields other := by
  induction fields with
  | nil => simp [insert, get?_cons, h]
  | cons f rest ih =>
    obtain ⟨k, v⟩ := f
    by_cases hk : k = key
    · simp [insert, get?_cons, hk, h]
    · simp [insert, get?_cons, hk, ih]

@[simp] theorem insert_insert (fields : Fields) (key : String) (value value' : Document) :
    insert (insert fields key value) key value' = insert fields key value' := by
  induction fields with
  | nil => simp [insert]
  | cons f rest ih =>
    obtain ⟨k, v⟩ := f
    by_cases hk : k = key <;> simp [insert, hk, ih]

theorem insert_of_get? (h : get? fields key = some value) : insert fields key value = fields := by
  induction fields with
  | nil => cases h
  | cons f rest ih =>
    obtain ⟨k, v⟩ := f
    rw [get?_cons] at h
    by_cases hk : k = key
    · rw [if_pos hk] at h
      simp [insert, hk, Option.some.inj h]
    · rw [if_neg hk] at h
      simp [insert, hk, ih h]

theorem insert_of_not_mem_keys (h : key ∉ keys fields) (value : Document) :
    insert fields key value = fields ++ [(key, value)] := by
  induction fields with
  | nil => rfl
  | cons f rest ih =>
    obtain ⟨k, v⟩ := f
    simp only [keys, List.map_cons, List.mem_cons, not_or] at h
    simp [insert, Ne.symm h.1, ih h.2]

/-- Fields that are in order already are collected as they are. -/
theorem ofList_of_nodup_keys (h : (keys fields).Nodup) : ofList fields = fields := by
  have hfold : ∀ done rest : Fields, (keys (done ++ rest)).Nodup →
      rest.foldl (fun fs f => insert fs f.1 f.2) done = done ++ rest := by
    intro done rest
    induction rest generalizing done with
    | nil => intro _; exact (List.append_nil done).symm
    | cons f rest ih =>
      intro hn
      have hnew : f.1 ∉ keys done := by
        simp only [keys, List.map_append, List.map_cons, List.nodup_append] at hn
        intro hmem
        exact hn.2.2 f.1 hmem f.1 List.mem_cons_self rfl
      rw [List.append_cons] at hn ⊢
      rw [List.foldl_cons, insert_of_not_mem_keys hnew, ih _ hn]
  exact hfold [] fields h

end MapTheme.Fields

namespace MapTheme

theorem Document.get?_object (fields : Fields) (key : String) : (object fields).get? key = Fields.get? fields key := rfl

end MapTheme
