/-
  MapTheme.Proofs.Step.Basic — what a conversion keeps, and what a sequence of steps ends with.

  A conversion takes `P` to `Q` when every result it has for an input with `P` has `Q`, errors or not.
  For documents with distinct keys: the combinators keep them if the steps inside do. What the parts leave as
  it is, without a note, the combinators leave as it is.
-/

import MapTheme.Proofs.Document.Distinct
import MapTheme.Proofs.Step.Diagnostics
import MapTheme.Step.Basic

namespace MapTheme

/-- Results for inputs with `P` have `Q`. -/
def Conversion.Takes {α β : Type} (c : Conversion α β) (P : α → Prop) (Q : β → Prop) : Prop :=
  ∀ {input place result}, P input → (c.convert input place).result = some result → Q result

/-- Keys that are distinct stay so. -/
abbrev Step.KeepsDistinct (step : Step) : Prop := step.Takes Document.Distinct Document.Distinct

abbrev Expansion.KeepsDistinct (step : Expansion) : Prop :=
  step.Takes Document.Distinct fun ds => ∀ d ∈ ds, d.Distinct

theorem Converted.result_of_map {α β : Type} {f : α → β} {c : Converted α} {b : β} (h : (c.map f).result = some b) :
    ∃ a, c.result = some a ∧ f a = b := Option.map_eq_some_iff.mp h

namespace Step

/-! ## In sequence -/

theorem runAll_takes {P : Document → Prop} {place : String} {steps : List Step} {current : Noted Document}
    {result : Document} (hsteps : ∀ step ∈ steps, step.Takes P P) (hP : P current.value)
    (h : (runAll place steps current).result = some result) : P result := by
  induction steps generalizing current with
  | nil => exact (Noted.result_finish h).2 ▸ hP
  | cons step rest ih =>
    simp only [runAll] at h
    split at h
    · rename_i r _ hr
      exact ih (fun s hs => hsteps s (List.mem_cons_of_mem _ hs)) (hsteps step List.mem_cons_self hP hr) h
    · cases h

theorem fuse_takes {P : Document → Prop} {name doc : String} {steps : List Step}
    (hsteps : ∀ step ∈ steps, step.Takes P P) : (fuse name doc steps).Takes P P :=
  fun hP h => runAll_takes hsteps hP h

/-- A sequence has the result that its last step has, without errors, for what those before left. -/
theorem exists_last_of_runAll {P : Document → Prop} {place : String} {steps : List Step} {last : Step}
    {current : Noted Document} {result : Document} (hsteps : ∀ step ∈ steps, step.Takes P P) (hP : P current.value)
    (h : (runAll place (steps ++ [last]) current).result = some result) :
    ∃ input, P input ∧ (last.convert input place).isOk = true ∧ (last.convert input place).result = some result := by
  induction steps generalizing current with
  | nil =>
    simp only [List.nil_append, runAll] at h
    split at h
    · rename_i r hok hr
      exact ⟨current.value, hP, hok, hr.trans (congrArg some (Noted.result_finish h).2)⟩
    · cases h
  | cons step rest ih =>
    simp only [List.cons_append, runAll] at h
    split at h
    · rename_i r _ hr
      exact ih (fun s hs => hsteps s (List.mem_cons_of_mem _ hs)) (hsteps step List.mem_cons_self hP hr) h
    · cases h

/-- A run with a result goes on behind every step with the result of that step. -/
theorem exists_of_runAll_cons {place : String} {step : Step} {rest : List Step} {current : Noted Document}
    {result : Document} (h : (runAll place (step :: rest) current).result = some result) :
    ∃ next : Noted Document, (step.convert current.value place).result = some next.value ∧
      (runAll place rest next).result = some result := by
  simp only [runAll] at h
  split at h
  · rename_i r _ hr
    exact ⟨⟨r, current.notes ++ (step.convert current.value place).notes⟩, hr, h⟩
  · cases h

/-- What the first steps keep holds where the others begin. -/
theorem exists_of_runAll_append {P : Document → Prop} {place : String} {first rest : List Step}
    {current : Noted Document} {result : Document} (hfirst : ∀ step ∈ first, step.Takes P P) (hP : P current.value)
    (h : (runAll place (first ++ rest) current).result = some result) :
    ∃ next : Noted Document, P next.value ∧ (runAll place rest next).result = some result := by
  induction first generalizing current with
  | nil => exact ⟨current, hP, h⟩
  | cons step first ih =>
    obtain ⟨next, hnext, h⟩ := exists_of_runAll_cons h
    exact ih (fun s hs => hfirst s (List.mem_cons_of_mem _ hs)) (hfirst step List.mem_cons_self hP hnext) h

theorem runAll_cons_of_success {place : String} {step : Step} {rest : List Step} {d r : Document} {notes : Diagnostics}
    (h : step.convert d place = .success r) :
    runAll place (step :: rest) ⟨d, notes⟩ = runAll place rest ⟨r, notes⟩ := by
  have hok : (Converted.success r).isOk = true := rfl
  simp only [runAll, h, hok]
  exact congrArg (fun notes => runAll place rest ⟨r, notes⟩) (Diagnostics.append_empty notes)

/-! ## On parts of a document -/

theorem on_keepsDistinct {key : String} {step : Step} (h : step.KeepsDistinct) : (on key step).KeepsDistinct := by
  intro input place result hi hr
  simp only [on] at hr
  split at hr
  · split at hr
    · rename_i fields field hf
      obtain ⟨d, hd, rfl⟩ := Converted.result_of_map hr
      have hfields := Document.distinct_object.mp hi
      exact Document.distinct_object.mpr (hfields.insert (h (hfields.of_get? hf) hd))
    · cases hr; exact hi
  · cases hr; exact hi

theorem value_convertItems {β : Type} (step : Conversion Document β) (place : String) (items : List Document) :
    ∀ b ∈ (convertItems step place items).value, ∃ item ∈ items, ∃ p, (step.convert item p).result = some b := by
  intro b hb
  simp only [convertItems, Noted.value_bind, Noted.value_pure, Noted.value_each, Noted.value_absorb,
    List.filterMap_map, List.mem_filterMap, Function.comp_apply, id] at hb
  obtain ⟨⟨item, i⟩, hm, hb⟩ := hb
  exact ⟨item, List.fst_mem_of_mem_zipIdx hm, _, hb⟩

theorem each_keepsDistinct {step : Step} (h : step.KeepsDistinct) : (each step).KeepsDistinct := by
  intro input place result hi hr
  simp only [each] at hr
  split at hr
  · obtain ⟨found, hfound, rfl⟩ := Converted.result_of_map hr
    obtain rfl := (Noted.result_finish hfound).2
    refine Document.distinct_list.mpr fun d hd => ?_
    obtain ⟨item, hm, p, hp⟩ := value_convertItems step place _ d hd
    exact h (Document.distinct_list.mp hi item hm) hp
  · cases hr

theorem concat_keepsDistinct {step : Expansion} (h : Expansion.KeepsDistinct step) : (concat step).KeepsDistinct := by
  intro input place result hi hr
  simp only [concat] at hr
  split at hr
  · obtain ⟨found, hfound, rfl⟩ := Converted.result_of_map hr
    obtain rfl := (Noted.result_finish hfound).2
    refine Document.distinct_list.mpr fun d hd => ?_
    obtain ⟨ds, hds, hd⟩ := List.mem_flatten.mp hd
    obtain ⟨item, hm, p, hp⟩ := value_convertItems step place _ ds hds
    exact h (Document.distinct_list.mp hi item hm) hp d hd
  · cases hr

theorem distinct_ite {c : Prop} [Decidable c] {a b : Document} (ha : a.Distinct) (hb : b.Distinct) :
    (if c then a else b).Distinct := by
  split
  · exact ha
  · exact hb

theorem setDefault_keepsDistinct {key : String} {value : Document} {onlyMissing : Bool} (hv : value.Distinct) :
    (setDefault key value onlyMissing).KeepsDistinct := by
  intro input place result hi hr
  simp only [setDefault] at hr
  split at hr
  · have hinsert : (Document.object (Fields.insert _ key value)).Distinct :=
      Document.distinct_object.mpr ((Document.distinct_object.mp hi).insert hv)
    rw [← Option.some.inj hr]
    exact distinct_ite hinsert hi
  · cases hr

/-! ## What the parts leave -/

section Parts

variable {key place : String} {input result : Document}

/-- What a step on a field leaves there comes from what was there. -/
theorem exists_of_get?_on {step : Step} {value : Document}
    (h : ((on key step).convert input place).result = some result) (hvalue : result.get? key = some value) :
    ∃ field, input.get? key = some field ∧ (step.convert field (fieldPlace place key)).result = some value := by
  simp only [on] at h
  split at h
  · rename_i fields
    split at h
    · rename_i field hfield
      obtain ⟨d, hd, rfl⟩ := Converted.result_of_map h
      rw [Document.get?_object, Fields.get?_insert_self] at hvalue
      exact ⟨field, hfield, hvalue ▸ hd⟩
    · rename_i hnone
      obtain rfl := Option.some.inj h
      rw [Document.get?_object, hnone] at hvalue
      cases hvalue
  · rename_i hobject
    obtain rfl := Option.some.inj h
    cases input with
    | object fields => exact absurd rfl (hobject fields)
    | null | bool | number | text | list => cases hvalue

theorem isSome_get?_on {step : Step} (h : ((on key step).convert input place).result = some result) :
    (result.get? key).isSome = (input.get? key).isSome := by
  simp only [on] at h
  split at h
  · rename_i fields
    split at h
    · rename_i field hfield
      obtain ⟨d, -, rfl⟩ := Converted.result_of_map h
      rw [Document.get?_object, Document.get?_object, Fields.get?_insert_self, hfield]
      rfl
    · obtain rfl := Option.some.inj h
      rfl
  · obtain rfl := Option.some.inj h
    rfl

/-- Every item of a concatenation is one of those that an item of the list gives. -/
theorem exists_of_concat {step : Expansion} (h : ((concat step).convert input place).result = some result) :
    ∃ items found, input = .list items ∧ result = .list found ∧
      ∀ d ∈ found, ∃ item ∈ items, ∃ p ds, (step.convert item p).result = some ds ∧ d ∈ ds := by
  simp only [concat] at h
  split at h
  · rename_i items
    obtain ⟨results, hresults, rfl⟩ := Converted.result_of_map h
    obtain rfl := (Noted.result_finish hresults).2
    refine ⟨items, _, rfl, rfl, ?_⟩
    intro d hd
    obtain ⟨ds, hds, hd⟩ := List.mem_flatten.mp hd
    obtain ⟨item, hitem, p, hp⟩ := value_convertItems step place _ ds hds
    exact ⟨item, hitem, p, ds, hp, hd⟩
  · cases h

theorem exists_of_each {step : Step} (h : ((each step).convert input place).result = some result) :
    ∃ items found, input = .list items ∧ result = .list found ∧
      ∀ d ∈ found, ∃ item ∈ items, ∃ p, (step.convert item p).result = some d := by
  simp only [each] at h
  split at h
  · rename_i items
    obtain ⟨found, hfound, rfl⟩ := Converted.result_of_map h
    obtain rfl := (Noted.result_finish hfound).2
    exact ⟨items, _, rfl, rfl, value_convertItems step place items⟩
  · cases h

end Parts

/-! ## Without a change

A sequence of steps that all give a document back, and note nothing, gives it back; so do the combinators for
parts that are given back. -/

theorem runAll_of_fixed {place : String} {steps : List Step} {d : Document}
    (h : ∀ step ∈ steps, step.convert d place = .success d) : runAll place steps ⟨d, .empty⟩ = .success d := by
  induction steps with
  | nil => rfl
  | cons step rest ih =>
    rw [runAll_cons_of_success (h step List.mem_cons_self)]
    exact ih fun s hs => h s (List.mem_cons_of_mem _ hs)

theorem on_of_fixed {key place : String} {step : Step} {fields : Fields}
    (h : ∀ d, Fields.get? fields key = some d → step.convert d (fieldPlace place key) = .success d) :
    (on key step).convert (.object fields) place = .success (.object fields) := by
  simp only [on]
  split
  · rename_i d hd
    rw [h d hd, Converted.map, Converted.success, Option.map_some, Fields.insert_of_get? hd]
    rfl
  · rfl

theorem convertItems_of_fixed {β : Type} {step : Conversion Document β} {place : String} {items : List Document}
    {result : Document → β} (h : ∀ item ∈ items, ∀ p, step.convert item p = .success (result item)) :
    (convertItems step place items).finish = .success (items.map result) := by
  have hfound : (items.zipIdx.map fun x => some (result x.1)).filterMap id = items.map result := by
    rw [List.filterMap_map, ← List.zipIdx_map_fst 0 items, List.map_map, List.zipIdx_map_fst]
    have hsome : List.filterMap (id ∘ fun x : Document × Nat => some (result x.1)) = List.map fun x => result x.1 :=
      List.filterMap_eq_map
    rw [hsome]
    rfl
  have hall : convertItems step place items = pure (items.map result) := by
    rw [convertItems, Noted.each_eq_pure (g := fun x => some (result x.1)), ← hfound]
    · rfl
    · rintro ⟨item, i⟩ hm
      show Noted.absorb (step.convert item (itemPlace place i)) = pure (some (result item))
      rw [h item (List.fst_mem_of_mem_zipIdx hm)]
      rfl
  rw [hall]
  rfl

theorem each_of_fixed {step : Step} {items : List Document}
    (h : ∀ item ∈ items, ∀ p, step.convert item p = .success item) (place : String) :
    (each step).convert (.list items) place = .success (.list items) := by
  have hitems : (convertItems step place items).finish = .success (items.map id) := convertItems_of_fixed h
  simp only [each, hitems, List.map_id]
  rfl

theorem concat_of_fixed {step : Expansion} {items : List Document}
    (h : ∀ item ∈ items, ∀ p, step.convert item p = .success [item]) (place : String) :
    (concat step).convert (.list items) place = .success (.list items) := by
  have hitems : (convertItems step place items).finish = .success (items.map fun item => [item]) :=
    convertItems_of_fixed h
  have hflat : (items.map fun item => [item]).flatten = items := by
    rw [← List.flatMap_def, List.flatMap_singleton']
  simp only [concat, hitems, Converted.map, Converted.success, Option.map_some, hflat]

theorem on_concat_of_fixed {key place : String} {step : Expansion} {fields : Fields}
    (h : ∀ d, Fields.get? fields key = some d →
      ∃ items, d = .list items ∧ ∀ item ∈ items, ∀ p, step.convert item p = .success [item]) :
    (on key (concat step)).convert (.object fields) place = .success (.object fields) := by
  refine on_of_fixed fun d hd => ?_
  obtain ⟨items, rfl, hitems⟩ := h d hd
  exact concat_of_fixed hitems _

/-! ## Item by item -/

/-- Of a step that fails only with an error, every item has a result if there is no error. -/
theorem forall₂_of_convertItems {β : Type} {step : Conversion Document β} {place : String} {items : List Document}
    {found : List β}
    (hstep : ∀ item p, (step.convert item p).notes.hasErrors = false → (step.convert item p).result.isSome = true)
    (h : (convertItems step place items).finish.result = some found) :
    List.Forall₂ (fun item b => ∃ p, (step.convert item p).result = some b) items found := by
  obtain ⟨hclean, rfl⟩ := Noted.result_finish h
  simp only [convertItems, Noted.value_bind, Noted.value_pure, Noted.value_each, Noted.value_absorb, Noted.notes_bind,
    Noted.notes_pure, Diagnostics.append_empty, Noted.hasErrors_each, List.any_eq_false, List.filterMap_map] at hclean ⊢
  clear h
  generalize 0 = i at hclean ⊢
  induction items generalizing i with
  | nil => exact .nil
  | cons item rest ih =>
    rw [List.zipIdx_cons] at hclean ⊢
    obtain ⟨hitem, hrest⟩ := List.forall_mem_cons.mp hclean
    obtain ⟨b, hb⟩ := Option.isSome_iff_exists.mp (hstep item (itemPlace place i) (Bool.eq_false_iff.mpr hitem))
    have hfound : (id ∘ fun x : Document × Nat => (step.convert x.1 (itemPlace place x.2)).result) (item, i) =
        some b := hb
    rw [List.filterMap_cons_some hfound]
    exact .cons ⟨_, hb⟩ (ih _ hrest)

end Step

end MapTheme
