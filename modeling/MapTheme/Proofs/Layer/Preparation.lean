/-
  MapTheme.Proofs.Layer.Preparation — a prepared layer has distinct keys.

  So it is for the notes in wordings, the old style, title icons, filters and generated renderings;
  with the steps on renderings, for the whole preparation of a layer.
-/

import MapTheme.Layer.Preparation
import MapTheme.Proofs.Rendering.Distinct
import MapTheme.Theme.Origin

namespace MapTheme

open Document (Distinct distinct_object distinct_list distinct_text)

/-! ## Notes in wordings -/

namespace Theme

theorem distinct_addOrigin (path : String) {fields : Fields} (h : fields.Distinct) : (addOrigin path fields).Distinct := by
  unfold addOrigin
  split
  · exact h
  · exact h.insert (distinct_text _)

theorem keys_annotateFields (path : String) (fields : List (String × Document)) :
    Fields.keys (annotateFields path fields) = Fields.keys fields := by
  induction fields with
  | nil => rfl
  | cons f rest ih => exact congrArg (f.1 :: ·) ih

mutual

theorem distinct_annotate (path : String) (isDisplay : Bool) : ∀ {d : Document}, d.Distinct →
    (annotate path isDisplay d).Distinct
  | .object fields, h => by
    have hfields := distinct_object.mp h
    simp only [annotate]
    split
    · exact distinct_object.mpr (distinct_addOrigin path hfields)
    · refine distinct_object.mpr ⟨?_, distinct_annotateFields path hfields.2⟩
      exact (keys_annotateFields path fields).symm ▸ hfields.1
  | .list items, h => by
    simp only [annotate]
    exact distinct_list.mpr (distinct_annotateItems path isDisplay 0 (distinct_list.mp h))
  | .null, h | .bool _, h | .number _, h | .text _, h => by simpa only [annotate] using h

theorem distinct_annotateFields (path : String) : ∀ {fields : List (String × Document)},
    (∀ f ∈ fields, f.2.Distinct) → ∀ f ∈ annotateFields path fields, f.2.Distinct
  | [], _ => by simp [annotateFields]
  | (k, d) :: rest, h => by
    simp only [annotateFields, List.forall_mem_cons] at h ⊢
    exact ⟨distinct_annotate _ _ h.1, distinct_annotateFields path h.2⟩

theorem distinct_annotateItems (path : String) (isDisplay : Bool) (i : Nat) : ∀ {items : List Document},
    (∀ d ∈ items, d.Distinct) → ∀ d ∈ annotateItems path isDisplay i items, d.Distinct
  | [], _ => by simp [annotateItems]
  | d :: rest, h => by
    simp only [annotateItems, List.forall_mem_cons] at h ⊢
    exact ⟨distinct_annotate _ _ h.1, distinct_annotateItems path isDisplay (i + 1) h.2⟩

end

theorem annotateWordings_keepsDistinct (start : String) : (annotateWordings start).KeepsDistinct := by
  intro input place result hi h
  simp only [annotateWordings] at h
  split at h
  · cases h
    exact distinct_annotate _ _ hi
  · cases h

end Theme

namespace Layer

variable {lib : Library} {input result : Document} {place : String}

/-! ## The old style -/

theorem distinct_takeFields (names : List String) {fields : Fields} (h : fields.Distinct) :
    (takeFields names fields).1.Distinct ∧ (takeFields names fields).2.Distinct := by
  refine List.foldlRecOn names _ (motive := fun s : Fields × Fields => s.1.Distinct ∧ s.2.Distinct) ⟨.nil, h⟩ ?_
  intro (taken, rest) ⟨ht, hr⟩ name _
  dsimp only
  split
  · rename_i d hd
    exact ⟨ht.insert (hr.of_get? hd), hr.erase name⟩
  · exact ⟨ht, hr⟩

theorem distinct_drawings (handling : Nat) {point line : Fields} (hp : point.Distinct) (hl : line.Distinct) :
    ∀ d ∈ drawings handling point line, d.Distinct := by
  intro d hd
  simp only [drawings, List.mem_append] at hd
  rcases hd with hd | hd <;> split at hd <;> simp only [List.not_mem_nil, List.mem_singleton] at hd <;> subst hd
  · exact distinct_object.mpr (hp.insert (Document.distinct_texts _))
  · exact distinct_object.mpr hl

theorem distinct_moveStyle {fields : Fields} (h : fields.Distinct) : (moveStyle fields).Distinct := by
  obtain ⟨hpoint, hrest⟩ := distinct_takeFields pointFields h
  obtain ⟨hline, hrest⟩ := distinct_takeFields lineFields hrest
  have hrest := hrest.erase "wayHandling"
  simp only [moveStyle]
  split
  · exact hrest
  · exact hrest.insert (distinct_list.mpr (distinct_drawings _ hpoint hline))

theorem moveOldStyle_keepsDistinct : moveOldStyle.KeepsDistinct := by
  intro input place result hi h
  simp only [moveOldStyle] at h
  split at h
  · have hmoved := distinct_object.mpr (distinct_moveStyle (distinct_object.mp hi))
    split at h
    · cases h; exact hi
    · obtain rfl := (Noted.result_finish h).2
      split <;> exact hmoved
  · cases h

/-! ## Additions -/

theorem expandTitleIcon_keepsDistinct (hlib : lib.Distinct) : Expansion.KeepsDistinct (expandTitleIcon lib) := by
  intro input place result hi h
  simp only [expandTitleIcon] at h
  split at h
  · split at h
    · cases h
      intro d hd
      obtain ⟨f, hf, rfl⟩ := List.mem_map.mp (List.mem_filter.mp hd).1
      exact hlib.renderings f hf
    · split at h
      · rename_i rendering hr
        cases h
        simpa using hlib.rendering hr
      · cases h
  · cases h
    simpa using hi

theorem distinct_sharedFilters (hlib : lib.Distinct) : ∀ d ∈ sharedFilters lib, d.Distinct := by
  unfold sharedFilters
  cases hf : lib.layers.find? "filters" with
  | none => simp
  | some layer =>
    cases hl : layer.listAt? "filter" with
    | none => simp [hl]
    | some items => simpa [hl] using (hlib.layer hf).listAt? hl

theorem expandFilter_keepsDistinct (hlib : lib.Distinct) : Expansion.KeepsDistinct (expandFilter lib) := by
  intro input place result hi h
  simp only [expandFilter] at h
  split at h
  · split at h
    · rename_i found hfound
      cases h
      simpa using distinct_sharedFilters hlib found (List.mem_of_find?_eq_some hfound)
    · cases h
  · cases h
    simpa using hi

theorem distinct_withRendering {layer rendering : Document} (hl : layer.Distinct) (hr : rendering.Distinct) :
    (withRendering layer rendering).Distinct := by
  unfold withRendering
  split
  · split
    · rename_i fields renderings hget
      have hfields := distinct_object.mp hl
      have hitems := distinct_list.mp (hfields.of_get? hget)
      refine distinct_object.mpr (hfields.insert (distinct_list.mpr fun d hd => ?_))
      rcases List.mem_append.mp hd with hd | hd
      · exact hitems d hd
      · exact List.mem_singleton.mp hd ▸ hr
    · exact hl
  · exact hl

/-- A map is added where the library has one and the layer needs it, and nothing is otherwise. -/
theorem of_addMiniMap (h : ((addMiniMap lib).convert input place).result = some result) :
    (result = input ∧ ((lib.renderings.find? "minimap").isSome = true → needsMiniMap lib input = false)) ∨
      ∃ map, lib.renderings.find? "minimap" = some map ∧ needsMiniMap lib input = true ∧
        result = withRendering input map := by
  simp only [addMiniMap] at h
  split at h
  · rename_i map hmap
    rw [← Option.some.inj h]
    by_cases hneeds : needsMiniMap lib input = true
    · exact .inr ⟨map, hmap, hneeds, if_pos hneeds⟩
    · exact .inl ⟨if_neg hneeds, fun _ => by simpa using hneeds⟩
  · rename_i hnone
    refine .inl ⟨(Option.some.inj h).symm, fun hsome => ?_⟩
    rw [hnone] at hsome
    cases hsome

theorem of_addQuestionBox (h : ((addQuestionBox lib).convert input place).result = some result) :
    (result = input ∧ needsQuestionBox lib input = false) ∨
      (needsQuestionBox lib input = true ∧ result = withRendering input questionBox) := by
  rw [← Option.some.inj h]
  by_cases hneeds : needsQuestionBox lib input = true
  · exact .inr ⟨hneeds, if_pos hneeds⟩
  · exact .inl ⟨if_neg hneeds, by simpa using hneeds⟩

theorem addMiniMap_keepsDistinct (hlib : lib.Distinct) : (addMiniMap lib).KeepsDistinct := by
  intro input place result hi h
  rcases of_addMiniMap h with ⟨rfl, -⟩ | ⟨map, hmap, -, rfl⟩
  · exact hi
  · exact distinct_withRendering hi (hlib.rendering hmap)

theorem distinct_questionBox : questionBox.Distinct := by
  simp [questionBox, Fields.Distinct, Fields.keys]

theorem addQuestionBox_keepsDistinct (lib : Library) : (addQuestionBox lib).KeepsDistinct := by
  intro input place result hi h
  rcases of_addQuestionBox h with ⟨rfl, -⟩ | ⟨-, rfl⟩
  · exact hi
  · exact distinct_withRendering hi distinct_questionBox

theorem preparationSteps_keepDistinct (hlib : lib.Distinct) : ∀ step ∈ preparationSteps lib, step.KeepsDistinct := by
  intro step hs
  simp only [preparationSteps, List.mem_cons, List.not_mem_nil, or_false] at hs
  rcases hs with rfl | rfl | rfl | rfl | rfl | rfl | rfl | rfl | rfl | rfl
  · exact Step.on_keepsDistinct (Step.concat_keepsDistinct Rendering.expandCopies_keepsDistinct)
  · exact Step.on_keepsDistinct (Step.concat_keepsDistinct (Rendering.expandReference_keepsDistinct hlib))
  · exact Step.on_keepsDistinct Rendering.uniqueInlineIds_keepsDistinct
  · exact Step.on_keepsDistinct (Step.each_keepsDistinct Rendering.replaceSpecialBlocks_keepsDistinct)
  · exact moveOldStyle_keepsDistinct
  · exact Step.setDefault_keepsDistinct (Document.distinct_texts _)
  · exact Step.on_keepsDistinct (Step.concat_keepsDistinct (expandTitleIcon_keepsDistinct hlib))
  · exact addMiniMap_keepsDistinct hlib
  · exact addQuestionBox_keepsDistinct lib
  · exact Step.on_keepsDistinct (Step.concat_keepsDistinct (expandFilter_keepsDistinct hlib))

theorem prepareLayer_keepsDistinct (hlib : lib.Distinct) : (prepareLayer lib).KeepsDistinct :=
  Step.fuse_takes (preparationSteps_keepDistinct hlib)

end Layer

end MapTheme
