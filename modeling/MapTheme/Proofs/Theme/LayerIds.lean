/-
  MapTheme.Proofs.Theme.LayerIds — a theme whose layers have distinct ids, and the layers that it is given.

  Three steps add layers, each with a check of its own for the ids that are there. Shared layers that are needed come
  in rounds: a round brings an id once, and only if no round before has brought it (`nodup_addDependencyLayers`).
  Companions are named after their layers, so their ids differ as those of the layers do
  (`nodup_addImportLayers`). Both keep the ids distinct, whatever the settings are.

  A default layer is compared with the layers of the theme alone, not with the default layers added before it. So
  the ids stay distinct exactly if the settings name no absent layer twice (`nodup_addDefaultLayers`); with `range`
  named twice the theme gets it twice (`addDefaultLayers_range_twice`).
-/

import MapTheme.Proofs.Theme.Companions

namespace MapTheme.Theme

variable {lib : Library} {theme result : Document} {layers : List Document} {place : String}

/-! ## Layers that are needed -/

theorem nodup_of_extends {added : List Layer.Dependency} {base : List Document} (h : Extends lib base added layers)
    (hlib : lib.layers.Keyed) (hdistinct : (layerIdsOf base).Nodup) : (layerIdsOf layers).Nodup := by
  rw [h.layerIdsOf_eq hlib]
  refine List.nodup_append.mpr ⟨h.nodup, hdistinct, ?_⟩
  intro a ha b hb he
  obtain ⟨d, hd, rfl⟩ := List.mem_map.mp ha
  exact h.fresh d hd (he ▸ hb)

theorem nodup_addDependencyLayers (hlib : lib.layers.Keyed) (hdistinct : (layerIdsOf (layersOf theme)).Nodup)
    (h : ((addDependencyLayers lib).convert theme place).result = some result) :
    (layerIdsOf (layersOf result)).Nodup := by
  cases hlist : theme.listAt? "layers" with
  | none =>
    simp only [addDependencyLayers, hlist] at h
    cases h
  | some own =>
    rw [convert_addDependencyLayers hlist] at h
    obtain ⟨hclean, rfl⟩ := Noted.result_finish h
    rw [Noted.notes_bind, Noted.notes_pure, Diagnostics.append_empty] at hclean
    obtain ⟨⟨added, hextends⟩, -⟩ := closed_of_addMissing hlib (.nil lib own) (by simp) hclean
    rw [layersOf, hlist, Option.getD_some] at hdistinct
    rw [Noted.value_bind, Noted.value_pure, layersOf_withLayers (isObject_of_listAt? hlist)]
    exact nodup_of_extends hextends hlib hdistinct

/-! ## Companions -/

theorem layerIdsOf_each_companion (lib : Library) (present : List String) (place : String) (layers : List Document) :
    layerIdsOf (Noted.each (companion lib present place) layers).value.flatten =
      (layerIdsOf (layers.filter (lacksCompanion lib present))).map (importStart ++ ·) := by
  rw [Noted.value_each]
  induction layers with
  | nil => rfl
  | cons layer rest ih =>
    rw [List.map_cons, List.flatten_cons]
    cases hlacks : lacksCompanion lib present layer with
    | false =>
      rw [companion_of_complete hlacks, List.filter_cons_of_neg (by simp [hlacks])]
      exact ih
    | true =>
      obtain ⟨id, himport, hnone⟩ := lacksCompanion_eq_true_iff.mp hlacks
      have hnamed : (importLayer id (importZoom layer)).id? = some (importStart ++ id) := rfl
      rw [value_companion_of_lacks himport hnone, List.filter_cons_of_pos hlacks, List.singleton_append, layerIdsOf,
        List.filterMap_cons_some hnamed, layerIdsOf, List.filterMap_cons_some (id?_of_importable? himport),
        List.map_cons]
      exact congrArg ((importStart ++ id) :: ·) ih

theorem nodup_addImportLayers (hdistinct : (layerIdsOf (layersOf theme)).Nodup)
    (h : ((addImportLayers lib).convert theme place).result = some result) :
    (layerIdsOf (layersOf result)).Nodup := by
  cases henabled : importsEnabled lib theme with
  | false =>
    rw [addImportLayers_of_disabled henabled] at h
    cases h
    exact hdistinct
  | true =>
    rw [(result_addImportLayers henabled place).2] at h
    cases h
    cases hobject : theme.isObject with
    | true =>
      rw [layersOf_withLayers hobject]
      exact nodup_append_of_layerIdsOf hdistinct (layerIdsOf_each_companion ..)
    | false =>
      rw [layersOf_of_not_object hobject]
      show (layerIdsOf (layersOf (withLayers theme []))).Nodup
      rw [layersOf_withLayers_of (.inr rfl)]
      exact .nil

/-! ## Default layers -/

/-- Shared layers have the ids that they were asked for by. -/
theorem layerIdsOf_of_map_find? (hlib : lib.layers.Keyed) {ids : List String}
    (h : layers.map some = ids.map lib.layers.find?) : layerIdsOf layers = ids := by
  induction ids generalizing layers with
  | nil =>
    obtain rfl := List.map_eq_nil_iff.mp h
    rfl
  | cons id rest ih =>
    obtain ⟨layer, more, rfl, hlayer, hmore⟩ := List.map_eq_cons_iff.mp h
    rw [layerIdsOf, List.filterMap_cons_some (hlib id layer hlayer.symm).2]
    exact congrArg (id :: ·) (ih hmore)

theorem layerIdsOf_addDefaultLayers (hlib : lib.layers.Keyed) (hobject : theme.isObject = true)
    (h : ((addDefaultLayers lib).convert theme place).result = some result) :
    layerIdsOf (layersOf result) = layerIdsOf (layersOf theme) ++ absentDefaults lib (layersOf theme) := by
  obtain ⟨-, added, hlayers, hadded⟩ := addDefaultLayers_layers hobject h
  rw [hlayers, layerIdsOf, List.filterMap_append]
  exact congrArg (layerIdsOf (layersOf theme) ++ ·) (layerIdsOf_of_map_find? hlib hadded)

/-- Only the ids of the default layers themselves can be there twice; a theme that is no object gets no layers. -/
theorem nodup_addDefaultLayers (hlib : lib.layers.Keyed) (hdistinct : (layerIdsOf (layersOf theme)).Nodup)
    (h : ((addDefaultLayers lib).convert theme place).result = some result) :
    (layerIdsOf (layersOf result)).Nodup ↔
      (theme.isObject = true → (absentDefaults lib (layersOf theme)).Nodup) := by
  cases hobject : theme.isObject with
  | true =>
    rw [layerIdsOf_addDefaultLayers hlib hobject h, List.nodup_append]
    refine ⟨fun h _ => h.2.1, fun h => ⟨hdistinct, h rfl, ?_⟩⟩
    rintro id hid _ habsent rfl
    simpa [hid] using (List.mem_filter.mp habsent).2
  | false =>
    simp only [addDefaultLayers] at h
    obtain ⟨-, rfl⟩ := Noted.result_finish h
    have hnone : ∀ layers, layersOf (withLayers theme layers) = [] := by
      cases theme with
      | object => cases hobject
      | null | bool | number | text | list => exact fun _ => rfl
    simp [hnone, layerIdsOf]

/-! ## All three -/

/-- A theme whose layers have distinct ids still has after the step that adds the layers that others need and after the
one that adds companions, whatever the settings; and after the one that adds default layers exactly if the settings do
not name a layer twice that the theme has not. -/
theorem adding_keeps_ids_distinct (hlib : lib.layers.Keyed) (theme : Document)
    (hdistinct : (layerIdsOf (layersOf theme)).Nodup) (place : String) (result : Document) :
    (((addDependencyLayers lib).convert theme place).result = some result → (layerIdsOf (layersOf result)).Nodup) ∧
    (((addImportLayers lib).convert theme place).result = some result → (layerIdsOf (layersOf result)).Nodup) ∧
    (((addDefaultLayers lib).convert theme place).result = some result →
      ((layerIdsOf (layersOf result)).Nodup ↔
        (theme.isObject = true → (absentDefaults lib (layersOf theme)).Nodup))) :=
  ⟨nodup_addDependencyLayers hlib hdistinct, nodup_addImportLayers hdistinct, nodup_addDefaultLayers hlib hdistinct⟩

/-- The layer of the theme and one of the shared layers are named as defaults, each once. -/
def defaultingLibrary : Library :=
  { cyclicLibrary with settings := { Settings.default with addedByDefault := ["a", "c"] } }

theorem adding_keeps_ids_distinct_snapping :
    defaultingLibrary.layers.Keyed ∧ (layerIdsOf (layersOf snappingTheme)).Nodup ∧
    ∃ supplied imported completed,
      ((addDependencyLayers defaultingLibrary).convert snappingTheme "themes:t").result = some supplied ∧
      ((addImportLayers defaultingLibrary).convert snappingTheme "themes:t").result = some imported ∧
      ((addDefaultLayers defaultingLibrary).convert snappingTheme "themes:t").result = some completed ∧
      (layerIdsOf (layersOf supplied)).Nodup ∧ (layerIdsOf (layersOf imported)).Nodup ∧
      (layerIdsOf (layersOf completed)).Nodup := by
  have hlib : defaultingLibrary.layers.Keyed := Registry.keyed_of_all (by decide)
  have hdistinct : (layerIdsOf (layersOf snappingTheme)).Nodup := by decide
  have hadding := adding_keeps_ids_distinct hlib snappingTheme hdistinct "themes:t"
  obtain ⟨supplied, hsupplied⟩ := Option.isSome_iff_exists.mp (show
    ((addDependencyLayers defaultingLibrary).convert snappingTheme "themes:t").result.isSome = true by decide +kernel)
  obtain ⟨imported, himported⟩ := Option.isSome_iff_exists.mp (show
    ((addImportLayers defaultingLibrary).convert snappingTheme "themes:t").result.isSome = true by decide +kernel)
  obtain ⟨completed, hcompleted⟩ := Option.isSome_iff_exists.mp (show
    ((addDefaultLayers defaultingLibrary).convert snappingTheme "themes:t").result.isSome = true by decide +kernel)
  have habsent : (absentDefaults defaultingLibrary (layersOf snappingTheme)).Nodup := by decide
  exact ⟨hlib, hdistinct, supplied, imported, completed, hsupplied, himported, hcompleted,
    (hadding supplied).1 hsupplied, (hadding imported).2.1 himported,
    ((hadding completed).2.2 hcompleted).mpr fun _ => habsent⟩

/-! ## A default that is named twice -/

def rangeLibrary : Library :=
  ⟨[("range", .object [("id", .text "range"), ("source", .text "special")])], [], [],
    { Settings.default with addedByDefault := ["range", "range"] }⟩

def lonelyTheme : Document :=
  .object [("id", .text "benches"),
    ("layers", .list [.object [("id", .text "bench"), ("source", .object [("osmTags", .text "amenity=bench")])]])]

/-- The second `range` is not among the layers of the theme either. -/
theorem addDefaultLayers_range_twice :
    rangeLibrary.layers.Keyed ∧ (layerIdsOf (layersOf lonelyTheme)).Nodup ∧
    ∃ result, (addDefaultLayers rangeLibrary).convert lonelyTheme "themes:benches" = .success result ∧
      layerIdsOf (layersOf result) = ["bench", "range", "range"] ∧ ¬ (layerIdsOf (layersOf result)).Nodup :=
  ⟨Registry.keyed_of_all (by decide), by decide, _, rfl, rfl, by decide⟩

end MapTheme.Theme
