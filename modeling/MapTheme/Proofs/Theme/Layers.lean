/-
  MapTheme.Proofs.Theme.Layers — what the steps of a theme make of its list of layers, layer by layer.

  A step on the list gives one layer for each (`on_each_layers`), or the layers of all entries one after the
  other (`on_concat_layers`); the override of all layers one for each (`applyOverrideAll_layers`). Default layers
  go behind those that are there (`addDefaultLayers_layers`).
-/

import MapTheme.Proofs.Document.Overlay
import MapTheme.Proofs.Layer.Frame
import MapTheme.Proofs.Step.Honesty
import MapTheme.Proofs.Theme.Imports
import MapTheme.Theme.Substitution

namespace MapTheme

open Document (Distinct distinct_object distinct_list)

/-- What stands behind comes from something before. -/
theorem exists_of_forall₂ {α β : Type} {R : α → β → Prop} {as : List α} {bs : List β} (h : List.Forall₂ R as bs) :
    ∀ b ∈ bs, ∃ a ∈ as, R a b := by
  induction h with
  | nil => simp
  | cons hab _ ih =>
    refine List.forall_mem_cons.mpr ⟨⟨_, List.mem_cons_self, hab⟩, fun c hc => ?_⟩
    obtain ⟨a, ha, hac⟩ := ih c hc
    exact ⟨a, List.mem_cons_of_mem _ ha, hac⟩

/-- Runs that each end in one item, if they have no error, end together in one item for each. -/
theorem Noted.forall₂_of_each {α β : Type} {f : α → Noted (List β)} {R : α → β → Prop} {as : List α}
    (hf : ∀ a ∈ as, (f a).notes.hasErrors = false → ∃ b, (f a).value = [b] ∧ R a b)
    (h : (Noted.each f as).notes.hasErrors = false) : List.Forall₂ R as (Noted.each f as).value.flatten := by
  rw [Noted.hasErrors_each, List.any_eq_false] at h
  rw [Noted.value_each]
  induction as with
  | nil => exact .nil
  | cons a rest ih =>
    obtain ⟨hclean, hrest⟩ := List.forall_mem_cons.mp h
    obtain ⟨b, hb, hab⟩ := hf a List.mem_cons_self (Bool.eq_false_iff.mpr hclean)
    rw [List.map_cons, hb, List.flatten_cons]
    exact .cons hab (ih (fun c hc => hf c (List.mem_cons_of_mem _ hc)) hrest)

namespace Document

/-- A key makes a text of a field only if it puts the text there. -/
theorem eq_of_mergeField_text {target : Fields} {key s : String} {value : Document}
    (h : mergeField target key value = .ok (.text s)) : MergeKey.ofText key = .plain key ∧ value = .text s := by
  cases hkey : MergeKey.ofText key with
  | before | behind =>
    obtain ⟨-, _, -, hlist⟩ := of_mergeField_adds (by rw [hkey]; rfl) h
    cases hlist
  | plain field =>
    obtain rfl := MergeKey.eq_of_ofText_plain hkey
    rcases of_mergeField_plain hkey h with ⟨_, _, _, -, -, -, hobject⟩ | ⟨-, rfl⟩
    · cases hobject
    · exact ⟨rfl, rfl⟩

/-- A text under an overlay is that of the overlay, if this has the field, and else the one that was there. -/
theorem get?_mergeFields_text {field s : String} (hfield : MergeKey.ofText field = .plain field)
    {source : List (String × Document)} {target result : Fields} (hn : (Fields.keys source).Nodup)
    (h : mergeFields source target = .ok result) (hs : Fields.get? result field = some (.text s)) :
    (Fields.get? source field).or (Fields.get? target field) = some (.text s) := by
  induction source generalizing target with
  | nil =>
    rw [mergeFields] at h
    cases h
    exact hs
  | cons f rest ih =>
    obtain ⟨key, value⟩ := f
    rw [mergeFields_cons] at h
    obtain ⟨d, hd, h⟩ := ok_of_bind h
    obtain ⟨hnew, hn⟩ := List.nodup_cons.mp hn
    have ih := ih hn h
    rw [Fields.get?_cons]
    by_cases hnamed : (MergeKey.ofText key).field = field
    · rw [hnamed, Fields.get?_insert_self] at ih
      cases hrest : Fields.get? rest field with
      | some e =>
        have hkey : key ≠ field := by
          rintro rfl
          exact hnew (List.mem_map.mpr ⟨_, Fields.mem_of_get? hrest, rfl⟩)
        rw [hrest] at ih
        rw [if_neg hkey]
        exact ih
      | none =>
        rw [hrest] at ih
        obtain rfl : d = .text s := Option.some.inj ih
        obtain ⟨hplain, rfl⟩ := eq_of_mergeField_text hd
        rw [hplain] at hnamed
        have hkey : key = field := hnamed
        rw [if_pos hkey]
        rfl
    · have hkey : key ≠ field := by
        rintro rfl
        exact hnamed (congrArg MergeKey.field hfield)
      rw [if_neg hkey]
      rw [Fields.get?_insert_of_ne hnamed] at ih
      exact ih

end Document

namespace Theme

variable {lib : Library} {input result : Document} {place : String}

/-! ## Lists of layers -/

theorem layersOf_congr {a b : Document} (h : a.get? "layers" = b.get? "layers") : layersOf a = layersOf b := by
  rw [layersOf, layersOf, Document.listAt?, Document.listAt?, h]

theorem distinct_layersOf (h : input.Distinct) : ∀ layer ∈ layersOf input, layer.Distinct := by
  unfold layersOf
  cases hl : input.listAt? "layers" with
  | none => simp
  | some layers => exact h.listAt? hl

/-- A step that takes lists only is run on the layers, if there is a list of them. -/
theorem layersOf_on {step : Step} (hstep : ∀ {d p r}, (step.convert d p).result = some r → d.isList = true)
    (h : ((Step.on "layers" step).convert input place).result = some result) :
    (layersOf input = [] ∧ layersOf result = []) ∨
      ∃ d p, (step.convert (.list (layersOf input)) p).result = some d ∧ layersOf result = (d.list?).getD [] := by
  simp only [Step.on] at h
  split at h
  · rename_i fields
    split at h
    · rename_i field hfield
      obtain ⟨d, hd, rfl⟩ := Converted.result_of_map h
      have hlist := hstep hd
      have hfound : (Document.object fields).get? "layers" = some field := hfield
      have hput : (Document.object (Fields.insert fields "layers" d)).get? "layers" = some d :=
        Fields.get?_insert_self fields "layers" d
      cases field with
      | list items =>
        refine .inr ⟨d, Step.fieldPlace place "layers", ?_, ?_⟩
        · rw [layersOf, Document.listAt?, hfound]
          exact hd
        · rw [layersOf, Document.listAt?, hput]
          rfl
      | null | bool | number | text | object => cases hlist
    · rename_i hfield
      cases h
      have hnone : layersOf (.object fields) = [] := by
        have hfound : (Document.object fields).get? "layers" = none := hfield
        rw [layersOf, Document.listAt?, hfound]
        rfl
      exact .inl ⟨hnone, hnone⟩
  · rename_i hobject
    cases h
    have hnone : layersOf input = [] := by
      cases input with
      | object fields => exact absurd rfl (hobject fields)
      | null | bool | number | text | list => rfl
    exact .inl ⟨hnone, hnone⟩

/-- Every layer has its result, in its place. -/
theorem on_each_layers {step : Step} (hstep : step.Honest)
    (h : ((Step.on "layers" (.each step)).convert input place).result = some result) :
    List.Forall₂ (fun layer out => ∃ p, (step.convert layer p).result = some out) (layersOf input) (layersOf result) := by
  have hlists : ∀ {d p r}, ((Step.each step).convert d p).result = some r → d.isList = true := by
    intro d p r hr
    cases d with
    | list => rfl
    | null | bool | number | text | object => cases hr
  rcases layersOf_on hlists h with ⟨hin, hout⟩ | ⟨d, p, hd, hout⟩
  · rw [hin, hout]
    exact .nil
  · obtain ⟨outs, houts, rfl⟩ := Converted.result_of_map hd
    rw [hout]
    exact Step.forall₂_of_convertItems hstep.isSome houts

/-- Every entry has its layers, and those of the entries stand one after the other. -/
theorem on_concat_layers {step : Expansion} (hstep : step.Honest)
    (h : ((Step.on "layers" (.concat step)).convert input place).result = some result) :
    ∃ found, List.Forall₂ (fun entry layers => ∃ p, (step.convert entry p).result = some layers) (layersOf input) found ∧
      layersOf result = found.flatten := by
  have hlists : ∀ {d p r}, ((Step.concat step).convert d p).result = some r → d.isList = true := by
    intro d p r hr
    cases d with
    | list => rfl
    | null | bool | number | text | object => cases hr
  rcases layersOf_on hlists h with ⟨hin, hout⟩ | ⟨d, p, hd, hout⟩
  · refine ⟨[], ?_, hout⟩
    rw [hin]
    exact .nil
  · obtain ⟨found, hfound, rfl⟩ := Converted.result_of_map hd
    exact ⟨found, Step.forall₂_of_convertItems hstep.isSome hfound, hout⟩

/-! ## Substituted layers -/

theorem distinct_overriddenLayer (hlib : lib.Distinct) {e : LayerEntry} {name : String} {layer : Document}
    (he : ∀ override, e.override = some override → override.Distinct) (h : overriddenLayer lib e name = .ok layer) :
    layer.Distinct := by
  unfold overriddenLayer at h
  split at h
  · cases h
  · rename_i shared hfind
    split at h
    · cases h
      exact hlib.layer hfind
    · rename_i override hoverride
      split at h
      · rename_i d hmerge
        cases h
        exact Document.distinct_merge (he override hoverride) (hlib.layer hfind) hmerge
      · cases h

theorem distinct_hide (labels : List String) {layer : Document} (h : layer.Distinct) : (hide labels layer).Distinct := by
  unfold hide
  split
  · rename_i fields
    split
    · rename_i renderings hget
      have hfields := distinct_object.mp h
      have hitems := distinct_list.mp (hfields.of_get? hget)
      exact distinct_object.mpr (hfields.insert (distinct_list.mpr fun d hd => hitems d (List.mem_filter.mp hd).1))
    · exact h
  · exact h

theorem distinct_layerFor (hlib : lib.Distinct) {e : LayerEntry} {name : String}
    (he : ∀ override, e.override = some override → override.Distinct) :
    ∀ d ∈ (layerFor lib e place name).value, d.Distinct := by
  unfold layerFor
  split
  · intro d hd
    cases hd
  · rename_i layer hlayer
    have hdistinct := distinct_overriddenLayer hlib he hlayer
    split
    · intro d hd
      exact List.mem_singleton.mp hd ▸ hdistinct
    · intro d hd
      exact List.mem_singleton.mp hd ▸ distinct_hide e.labels hdistinct

/-- An override that is taken is that in its field, an object that does not name the renderings themselves. -/
theorem overrideOf_eq {entry : Fields} {override : Option Document} (h : overrideOf entry = .ok override) :
    override = Fields.get? entry "override" ∧
      ∀ d, override = some d → d.isObject = true ∧ d.get? "tagRenderings" = none := by
  unfold overrideOf at h
  split at h
  · rename_i hget
    cases h
    exact ⟨hget.symm, by simp⟩
  · rename_i fields hget
    split at h
    · cases h
    · rename_i hplain
      cases h
      refine ⟨hget.symm, fun d hd => ?_⟩
      obtain rfl := Option.some.inj hd
      refine ⟨rfl, ?_⟩
      rw [Fields.has_eq_isSome_get?, Option.not_isSome_iff_eq_none] at hplain
      exact hplain
  · cases h

/-- The parts of an entry are those in its fields. -/
theorem LayerEntry.parts_of_ofFields {entry : Fields} {builtin : Document} {e : LayerEntry}
    (h : LayerEntry.ofFields entry builtin = .ok e) :
    Rendering.textList? builtin = some e.names ∧ overrideOf entry = .ok e.override ∧
      (Fields.get? entry "hideTagRenderingsWithLabels" = none → e.labels = []) := by
  unfold LayerEntry.ofFields at h
  split at h
  · cases h
  · rename_i names hnames
    split at h
    · cases h
    · rename_i override hoverride
      split at h
      · cases h
        exact ⟨hnames, hoverride, fun _ => rfl⟩
      · rename_i d hd
        split at h
        · cases h
        · cases h
          refine ⟨hnames, hoverride, fun hnone => ?_⟩
          rw [hd] at hnone
          cases hnone

/-- The override of an entry is that in its field. -/
theorem get?_of_ofFields {entry : Fields} {builtin override : Document} {e : LayerEntry}
    (h : LayerEntry.ofFields entry builtin = .ok e) (he : e.override = some override) :
    Fields.get? entry "override" = some override := by
  obtain ⟨-, hoverride, -⟩ := LayerEntry.parts_of_ofFields h
  rw [← (overrideOf_eq hoverride).1, he]

theorem substituteLayer_keepsDistinct (hlib : lib.Distinct) : Expansion.KeepsDistinct (substituteLayer lib) := by
  intro input place result hi h
  simp only [substituteLayer] at h
  split at h
  · rename_i name
    obtain rfl := (Noted.result_finish h).2
    exact distinct_layerFor hlib (by simp)
  · rename_i entry
    split at h
    · cases h
      simpa using hi
    · rename_i builtin _
      split at h
      · cases h
      · rename_i e he
        obtain ⟨found, hfound, rfl⟩ := Converted.result_of_map h
        obtain rfl := (Noted.result_finish hfound).2
        rw [Noted.value_each]
        intro d hd
        obtain ⟨ds, hds, hd⟩ := List.mem_flatten.mp hd
        obtain ⟨name, -, rfl⟩ := List.mem_map.mp hds
        refine distinct_layerFor hlib ?_ d hd
        intro override hoverride
        exact (distinct_object.mp hi).of_get? (get?_of_ofFields he hoverride)
  · cases h

theorem substituteLayer_honest (lib : Library) : (substituteLayer lib).Honest := by
  intro input place
  simp only [substituteLayer]
  split
  · exact Step.honest_finish _
  · split
    · exact Step.honest_success _
    · split
      · exact Step.honest_failure place _
      · exact Step.honest_map _ (Step.honest_finish _)
  · exact Step.honest_failure place _

/-! ## The override of all layers -/

/-- The layer under the override, if there is one. -/
def Overridden (override : Option Document) (layer result : Document) : Prop :=
  match override with
  | none => result = layer
  | some override => layer.isObject = true ∧ override.merge layer = .ok result

theorem Overridden.distinct {override : Option Document} {layer result : Document}
    (ho : ∀ d, override = some d → d.Distinct) (hl : layer.Distinct) (h : Overridden override layer result) :
    result.Distinct := by
  cases override with
  | none => exact h ▸ hl
  | some d => exact Document.distinct_merge (ho d rfl) hl h.2

/-- The id of a layer under the override is that of the override, if this has one, and else its own. -/
theorem Overridden.id? {override : Option Document} {layer result : Document} {id : String}
    (ho : ∀ d, override = some d → d.Distinct) (h : Overridden override layer result) (hid : result.id? = some id) :
    ((override.bind (·.get? "id")).or (layer.get? "id")).bind Document.text? = some id := by
  cases override with
  | none => exact h ▸ hid
  | some override =>
    obtain ⟨hobject, hmerge⟩ := h
    cases layer with
    | object target =>
      cases override with
      | object source =>
        rw [Document.merge] at hmerge
        cases hfields : Document.mergeFields source target with
        | error fault => rw [hfields] at hmerge; cases hmerge
        | ok fields =>
          rw [hfields] at hmerge
          cases hmerge
          obtain ⟨value, hvalue, htext⟩ := Option.bind_eq_some_iff.mp hid
          cases value with
          | text s =>
            have hplain : MergeKey.ofText "id" = .plain "id" := by decide
            have hfound := Document.get?_mergeFields_text hplain (distinct_object.mp (ho _ rfl)).1 hfields hvalue
            exact (congrArg (Option.bind · Document.text?) hfound).trans htext
          | null | bool | number | list | object => cases htext
      | null | bool | number | text | list =>
        simp only [Document.merge, Except.ok.injEq] at hmerge
        subst hmerge
        cases hid
    | null | bool | number | text | list => cases hobject

theorem value_overrideLayer {override layer : Document} (h : (overrideLayer override place layer).notes.hasErrors = false) :
    ∃ d, (overrideLayer override place layer).value = [d] ∧ Overridden (some override) layer d := by
  unfold overrideLayer at h ⊢
  cases hobject : layer.isObject with
  | false => simp [hobject] at h
  | true =>
    cases hmerge : override.merge layer with
    | error fault => simp [hobject, hmerge] at h
    | ok d => exact ⟨d, by simp, hobject, hmerge⟩

theorem overridden_of_each {override : Document} {layers : List Document}
    (h : (Noted.each (fun (layer, i) => overrideLayer override (layerPlace place i) layer)
      layers.zipIdx).notes.hasErrors = false) :
    List.Forall₂ (Overridden (some override)) layers
      (Noted.each (fun (layer, i) => overrideLayer override (layerPlace place i) layer) layers.zipIdx).value.flatten := by
  have hnumbered : List.Forall₂ (fun x d => Overridden (some override) x.1 d) layers.zipIdx _ :=
    Noted.forall₂_of_each (fun _ _ => value_overrideLayer) h
  rw [← List.forall₂_map_left_iff (f := Prod.fst), List.zipIdx_map_fst] at hnumbered
  exact hnumbered

/-- What stands in the theme once the layers are under the override and the override is out. -/
theorem layers_withoutOverride {override : Document} {layers : List Document} (hi : input.Distinct)
    (hoverride : input.get? "overrideAll" = some override)
    (hlayers : List.Forall₂ (Overridden (some override)) (layersOf input) layers) :
    (withoutField "overrideAll" (withLayers input layers)).Distinct ∧
      (∀ key, key ∉ applyOverrideAll.modified →
        (withoutField "overrideAll" (withLayers input layers)).get? key = input.get? key) ∧
      List.Forall₂ (Overridden (some override)) (layersOf input)
        (layersOf (withoutField "overrideAll" (withLayers input layers))) := by
  cases input with
  | object fields =>
    have hfields := distinct_object.mp hi
    have hover : override.Distinct := hfields.of_get? hoverride
    have hdistinct : (Document.list layers).Distinct := by
      refine distinct_list.mpr fun d hd => ?_
      obtain ⟨layer, hlayer, hd⟩ := exists_of_forall₂ hlayers d hd
      exact hd.distinct (fun _ ho => Option.some.inj ho ▸ hover) (distinct_layersOf hi layer hlayer)
    have hput : (Fields.insert fields "layers" (.list layers)).Distinct := hfields.insert hdistinct
    have hkeep : ∀ key, "overrideAll" ≠ key →
        (withoutField "overrideAll" (withLayers (.object fields) layers)).get? key =
          (withLayers (.object fields) layers).get? key :=
      fun key hkey => Fields.get?_erase_of_ne hput hkey
    refine ⟨distinct_object.mpr (hput.erase _), fun key hkey => ?_, ?_⟩
    · have hmodified : applyOverrideAll.modified = ["layers", "overrideAll"] := rfl
      simp only [hmodified, List.mem_cons, List.not_mem_nil, or_false, not_or] at hkey
      rw [hkeep key (Ne.symm hkey.2)]
      exact Step.get?_insert_object (Ne.symm hkey.1)
    · rw [layersOf_congr (hkeep "layers" (by decide)), layersOf_withLayers rfl]
      exact hlayers
  | null | bool | number | text | list => cases hoverride

/-- Every layer is under the override afterwards, in its place, and the theme is as before otherwise. -/
theorem applyOverrideAll_layers (hi : input.Distinct) (h : (applyOverrideAll.convert input place).result = some result) :
    result.Distinct ∧ (∀ key, key ∉ applyOverrideAll.modified → result.get? key = input.get? key) ∧
      List.Forall₂ (Overridden (input.get? "overrideAll")) (layersOf input) (layersOf result) := by
  simp only [applyOverrideAll] at h
  split at h
  · rename_i hnone
    cases h
    rw [hnone]
    exact ⟨hi, fun _ _ => rfl, List.forall₂_same.mpr fun _ _ => rfl⟩
  · rename_i override hoverride
    split at h
    · cases h
    · obtain ⟨hclean, rfl⟩ := Noted.result_finish h
      rw [Noted.notes_bind, Noted.notes_pure, Diagnostics.append_empty] at hclean
      rw [Noted.value_bind, Noted.value_pure, hoverride]
      exact layers_withoutOverride hi hoverride (overridden_of_each hclean)
  · cases h

/-! ## Default layers -/

/-- The ids of the default layers that are not there already. -/
def absentDefaults (lib : Library) (layers : List Document) : List String :=
  lib.settings.addedByDefault.filter (!(layerIdsOf layers).contains ·)

theorem value_defaultLayer {present : List String} {id : String}
    (h : (defaultLayer lib present place id).notes.hasErrors = false) :
    (defaultLayer lib present place id).value.map some = ([id].filter (!present.contains ·)).map lib.layers.find? := by
  unfold defaultLayer at h ⊢
  by_cases hpresent : id ∈ present
  · simp [hpresent]
  · cases hfind : lib.layers.find? id with
    | none => simp [hpresent, hfind] at h
    | some layer => simp [hpresent, hfind]

/-- The shared layers of these ids are added. -/
theorem addDefaultLayers_layers (hobject : input.isObject = true)
    (h : ((addDefaultLayers lib).convert input place).result = some result) :
    result.isObject = true ∧ ∃ added, layersOf result = layersOf input ++ added ∧
      added.map some = (absentDefaults lib (layersOf input)).map lib.layers.find? := by
  simp only [addDefaultLayers] at h
  obtain ⟨hclean, rfl⟩ := Noted.result_finish h
  rw [Noted.notes_bind, Noted.notes_pure, Diagnostics.append_empty, Noted.hasErrors_each, List.any_eq_false] at hclean
  rw [Noted.value_bind, Noted.value_pure]
  refine ⟨isObject_withLayers hobject _, _, layersOf_withLayers hobject _, ?_⟩
  rw [Noted.value_each, absentDefaults]
  generalize lib.settings.addedByDefault = ids at hclean
  induction ids with
  | nil => rfl
  | cons id rest ih =>
    obtain ⟨hid, hrest⟩ := List.forall_mem_cons.mp hclean
    rw [List.map_cons, List.flatten_cons, List.map_append, ih hrest, value_defaultLayer (Bool.eq_false_iff.mpr hid),
      ← List.map_append, ← List.filter_append, List.singleton_append]

end Theme

end MapTheme
